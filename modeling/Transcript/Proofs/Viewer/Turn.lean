import Transcript.Viewer.Basic
import Transcript.Proofs.Conversation.Log

/-! # What a turn comes to

A segment of a call or of a follower, where it is possible, comes to one of a few things. They are told
apart here once (`served_of_serve`, `followed_of_followNext`), with all that later arguments need: which
of them touch the conversation or a follower, and what was the case when they did. Whatever a step is, every
follower is still there after it (`follower_of_step`).
-/

namespace Transcript

/-- What an arrival is for the conversation: a failed stream is a frame that says so. -/
def Arrival.frame? : Arrival → Option Frame
  | .frame unit => some unit
  | .failure error => some (.failure error.message)
  | .crash => none

theorem Arrival.eq_crash_of_frame? {arrival : Arrival} (unreadable : arrival.frame? = none) :
    arrival = .crash := by
  cases arrival with
  | crash => rfl
  | frame unit | failure error => contradiction

/-- Whether a call opens a stored run. -/
def Call.opens : Call → Bool
  | .openRun _ => true
  | _ => false

/-- Whether a call that stands here has begun the conversation of its run. Opening a run touches the
conversation in its last segment only. -/
def Progress.hasBegun (call : Call) : Progress → Bool
  | .starting _ => true
  | .fetching | .failing _ => !call.opens
  | .entered | .aborting _ | .joining _ | .clearing | .showing _ => false

namespace Effects

/-- Whether the conversation starts again. -/
def clears (e : Effects) : Bool :=
  e.changes.any fun
    | .reset | .loaded _ => true
    | _ => false

/-- The run whose stream is followed from now on, if one is. -/
def started? (e : Effects) : Option String :=
  e.notices.findSome? fun
    | .runStarted runId => some runId
    | _ => none

end Effects

namespace Viewer

/-! ## A segment of a call -/

/-- The viewer with a follower cancelled and no stream followed. -/
def unfollow (v : Viewer) (index : Nat) : Viewer :=
  { v.modifyFollower index fun f => { f with cancelled := true } with current := none }

/-- What a segment of a call comes to, given an answer. -/
inductive Served (v : Viewer) (call : Call) : Progress → Answer → Viewer × Effects → Prop
  /-- The call goes on and leaves everything as it is. -/
  | proceeds {progress next : Progress} {answer : Answer}
      (stopped : progress = .entered → v.current = none)
      (waits : ∀ epoch, next ≠ .starting epoch)
      (untouched : next.hasBegun call → progress.hasBegun call) :
      Served v call progress answer (v.proceed call next, {})
  /-- The call is over and leaves everything as it is. -/
  | ends {progress : Progress} {answer : Answer} {effects : Effects}
      (silent : effects.changes = []) (unstarted : effects.started? = none) :
      Served v call progress answer (v.finish, effects)
  /-- The call takes the follower of the stream that is followed. -/
  | stops {index : Nat} {answer : Answer} {effects : Effects} (current : v.current = some index)
      (silent : effects.changes = []) (unstarted : effects.started? = none) :
      Served v call .entered answer ((v.unfollow index).proceed call (.aborting index), effects)
  /-- The conversation of a run begins, and its stream is asked for. -/
  | begins {runId : String} {c : Conversation} {answer : Answer} {effects : Effects}
      (starts : call = .startRun runId)
      (fresh : c = (Conversation.beginRun runId v.conversation).1)
      (cleared : effects.clears) (unstarted : effects.started? = none) :
      Served v call .clearing answer
        ({ v with conversation := c }.proceed call (.starting c.epoch), effects)
  /-- The call is over with another conversation. -/
  | replaces {c : Conversation} {session : Option Session} {progress : Progress} {answer : Answer}
      {effects : Effects} (settings : c.settings = v.conversation.settings)
      (stopped : progress ≠ .entered) (cleared : effects.clears ∨ progress.hasBegun call)
      (unstarted : effects.started? = none) :
      Served v call progress answer ({ v with conversation := c, session }.finish, effects)
  /-- The stream of a run is there, and is followed from now on. -/
  | starts {runId : String} {epoch : Nat} {stream : Stream} (starts : call = .startRun runId) :
      Served v call (.starting epoch) (.stream (.ok stream)) (v.follow runId epoch stream)

variable {v : Viewer} {call : Call} {progress : Progress} {answer : Answer}
  {next : Viewer × Effects}

theorem served_afterStop (stopped : progress = .entered → v.current = none) :
    Served v call progress answer (v.afterStop call) := by
  cases call with
  | startRun | openRun | reset | newSession | deleteSession =>
    exact .proceeds stopped (by simp) (by simp [Progress.hasBegun, Call.opens])
  | cancel | currentSession | followed => exact .ends rfl rfl

theorem served_stop : Served v call .entered answer (v.stop call) := by
  unfold stop
  split
  next none => exact served_afterStop fun _ => none
  next index following => exact .stops following rfl rfl

theorem served_enter : Served v call .entered answer (v.enter call) := by
  cases call with
  | deleteSession sessionId =>
    simp only [enter]
    split
    · exact served_stop
    · exact .ends rfl rfl
  | currentSession | followed => exact .ends rfl rfl
  | startRun | openRun | cancel | reset | newSession => exact served_stop

theorem served_clear : Served v call .clearing answer (v.clear call) := by
  cases call with
  | startRun runId => exact .begins rfl rfl rfl rfl
  | openRun | cancel | reset | newSession | deleteSession | currentSession | followed =>
    exact .replaces rfl (by simp) (.inl rfl) rfl

theorem served_fail {error : DeliveryError} :
    Served v call (.failing error) answer (v.fail call error) := by
  have ingested (c : Conversation) : (Conversation.ingest (.failure error.message) c).1.settings =
      c.settings := Conversation.settings_input (.frame (.failure error.message)) c
  cases call with
  | openRun runId => exact .replaces (ingested _) (by simp) (.inl rfl) rfl
  | startRun | cancel | reset | newSession | deleteSession | currentSession | followed =>
    exact .replaces (ingested _) (by simp) (.inr rfl) rfl

theorem served_of_serve (served : v.serve call progress answer = some next) :
    Served v call progress answer next := by
  cases progress with
  | entered =>
    obtain rfl := Option.some.inj served
    exact served_enter
  | aborting index =>
    obtain rfl := Option.some.inj served
    exact .proceeds (by simp) (by simp) (by simp [Progress.hasBegun])
  | joining index =>
    simp only [serve, Option.ite_none_right_eq_some, Option.some.injEq] at served
    obtain ⟨-, rfl⟩ := served
    exact served_afterStop (by simp)
  | clearing =>
    obtain rfl := Option.some.inj served
    exact served_clear
  | starting epoch =>
    cases answer with
    | stream result =>
      simp only [serve] at served
      split at served
      next runId stream =>
        obtain rfl := Option.some.inj served
        exact .starts rfl
      next error =>
        obtain rfl := Option.some.inj served
        exact .proceeds (by simp) (by simp) fun _ => rfl
      next => contradiction
    | none | run => contradiction
  | fetching =>
    cases answer with
    | run result =>
      cases result with
      | ok run =>
        obtain rfl := Option.some.inj served
        exact .proceeds (by simp) (by simp) (by simp [Progress.hasBegun])
      | error error =>
        obtain rfl := Option.some.inj served
        exact .proceeds (by simp) (by simp) id
    | none | stream => contradiction
  | showing run =>
    simp only [serve] at served
    split at served
    · obtain rfl := Option.some.inj served
      exact .replaces (Conversation.settings_load run v.conversation) (by simp) (.inl rfl) rfl
    · contradiction
  | failing error =>
    obtain rfl := Option.some.inj served
    exact served_fail

/-! ## A segment of a follower -/

/-- What a segment of a follower comes to. -/
inductive Followed (v : Viewer) (index : Nat) (f : Follower) : Viewer × Effects → Prop
  /-- It was cancelled, or the conversation is another one. -/
  | givesUp {effects : Effects} (superseded : f.isSuperseded v.conversation)
      (running : f.isDone = false) (silent : effects.changes = []) :
      Followed v index f (v.modifyFollower index fun f => { f with phase := .closed }, effects)
  /-- There is nothing more to read. -/
  | exhausts (phase : f.phase = .receiving) (stream : f.stream = ⟨[], false⟩) :
      Followed v index f (v.modifyFollower index fun f => { f with phase := .ending }, {})
  /-- It reads a frame. -/
  | reads {arrival : Arrival} {frame : Frame} {queue : List Arrival} (phase : f.phase = .receiving)
      (next : f.stream.queue = arrival :: queue) (readable : arrival.frame? = some frame) :
      Followed v index f (v.modifyFollower index fun f =>
        { f with phase := .delivering frame, stream := { f.stream with queue } }, {})
  /-- It breaks off. -/
  | breaks {arrival : Arrival} {queue : List Arrival} (phase : f.phase = .receiving)
      (next : f.stream.queue = arrival :: queue) (unreadable : arrival.frame? = none) :
      Followed v index f (v.modifyFollower index fun f =>
        { f with phase := .crashed, stream := { f.stream with queue } }, {})
  /-- The conversation takes its frame. -/
  | delivers {frame : Frame} {after : Follower.Phase} {effects : Effects}
      (phase : f.phase = .delivering frame) (current : f.isSuperseded v.conversation = false)
      (next : after = if frame.isFailure then .closed else .receiving) :
      Followed v index f
        ({ v with conversation := (Conversation.ingest frame v.conversation).1 }.modifyFollower index
          fun f => { f with phase := after }, effects)
  /-- The conversation is told that the stream has ended. -/
  | settles {effects : Effects} (phase : f.phase = .ending)
      (current : f.isSuperseded v.conversation = false) :
      Followed v index f
        ({ v with conversation := (Conversation.endStream v.conversation).1 }.modifyFollower index
          fun f => { f with phase := .closed }, effects)

theorem Followed.running {index : Nat} {f : Follower} (followed : Followed v index f next) :
    f.isDone = false := by
  cases followed with
  | givesUp _ running => exact running
  | exhausts phase | reads phase | breaks phase | delivers phase | settles phase =>
    simp [Follower.isDone, phase]

/-- A follower that was cancelled leaves the conversation alone. -/
theorem Followed.of_cancelled {index : Nat} {f : Follower} {u : Viewer} {effects : Effects}
    (followed : Followed v index f (u, effects)) (cancelled : f.cancelled) :
    effects.changes = [] ∧ ∃ g, u = v.modifyFollower index g := by
  cases followed with
  | givesUp _ _ silent => exact ⟨silent, _, rfl⟩
  | exhausts | reads | breaks => exact ⟨rfl, _, rfl⟩
  | delivers _ alive | settles _ alive => simp [Follower.isSuperseded, cancelled] at alive

theorem followed_of_followNext {index : Nat} {f : Follower}
    (followed : v.followNext index f = some next) : Followed v index f next := by
  cases phase : f.phase with
  | receiving =>
    simp only [followNext, phase] at followed
    split at followed
    next cancelled =>
      obtain rfl := Option.some.inj followed
      exact .givesUp (by simp [Follower.isSuperseded, cancelled])
        (by simp [Follower.isDone, phase]) rfl
    next =>
      split at followed
      next empty =>
        simp only [Option.ite_none_left_eq_some, Option.some.injEq, Bool.not_eq_true] at followed
        obtain ⟨exhausted, rfl⟩ := followed
        have stream : f.stream = ⟨[], false⟩ := by rw [← empty, ← exhausted]
        exact .exhausts phase stream
      next arrival queue next =>
        obtain rfl := Option.some.inj followed
        cases arrival with
        | frame unit => exact .reads phase next rfl
        | failure error => exact .reads phase next rfl
        | crash => exact .breaks phase next rfl
  | delivering frame =>
    simp only [followNext, phase] at followed
    split at followed
    next superseded =>
      obtain rfl := Option.some.inj followed
      exact .givesUp superseded (by simp [Follower.isDone, phase]) rfl
    next current =>
      split at followed
      next failed =>
        obtain rfl := Option.some.inj followed
        exact .delivers phase (Bool.eq_false_iff.mpr current) (if_pos failed).symm
      next whole =>
        obtain rfl := Option.some.inj followed
        exact .delivers phase (Bool.eq_false_iff.mpr current) (if_neg whole).symm
  | ending =>
    simp only [followNext, phase] at followed
    obtain rfl := Option.some.inj followed
    split
    next superseded => exact .givesUp superseded (by simp [Follower.isDone, phase]) rfl
    next current => exact .settles phase (Bool.eq_false_iff.mpr current)
  | closed => simp only [followNext, phase, reduceCtorEq] at followed
  | crashed => simp only [followNext, phase, reduceCtorEq] at followed

/-! ## Turns as steps -/

variable {u : Viewer} {effects : Effects}

theorem serve_of_step (stepped : v.step (.serve answer) = some (u, effects)) :
    ∃ call progress w, v.serving = some (call, progress) ∧
      v.serve call progress answer = some (w, effects) ∧ u = w.beginNext := by
  cases serving : v.serving with
  | none => simp [step, serving] at stepped
  | some turn =>
    obtain ⟨call, progress⟩ := turn
    simp only [step, serving, Option.map_eq_some_iff, Prod.mk.injEq] at stepped
    obtain ⟨next, served, rfl, rfl⟩ := stepped
    exact ⟨call, progress, next.1, rfl, served, rfl⟩

theorem served_of_step (stepped : v.step (.serve answer) = some (u, effects)) :
    ∃ call progress w, v.serving = some (call, progress) ∧
      Served v call progress answer (w, effects) ∧ u = w.beginNext := by
  obtain ⟨call, progress, w, serving, served, begun⟩ := serve_of_step stepped
  exact ⟨call, progress, w, serving, served_of_serve served, begun⟩

theorem followNext_of_step {index : Nat} (stepped : v.step (.follow index) = some (u, effects)) :
    ∃ f, v.followers[index]? = some f ∧ v.followNext index f = some (u, effects) := by
  cases found : v.followers[index]? with
  | none => simp [step, found] at stepped
  | some f =>
    simp only [step, found] at stepped
    exact ⟨f, rfl, stepped⟩

theorem followed_of_step {index : Nat} (stepped : v.step (.follow index) = some (u, effects)) :
    ∃ f, v.followers[index]? = some f ∧ Followed v index f (u, effects) := by
  obtain ⟨f, found, followed⟩ := followNext_of_step stepped
  exact ⟨f, found, followed_of_followNext followed⟩

theorem arrived_of_step {index : Nat} {arrival : Arrival}
    (stepped : v.step (.arrive index arrival) = some (u, effects)) :
    ∃ f, v.followers[index]? = some f ∧ f.stream.isOpen ∧ effects = {} ∧
      u = v.modifyFollower index fun f =>
        { f with stream := { f.stream with queue := f.stream.queue ++ [arrival] } } := by
  cases found : v.followers[index]? with
  | none => simp [step, found] at stepped
  | some f =>
    simp only [step, found, Option.ite_none_right_eq_some, Option.some.injEq, Prod.mk.injEq]
      at stepped
    obtain ⟨isOpen, rfl, rfl⟩ := stepped
    exact ⟨f, rfl, isOpen, rfl, rfl⟩

end Viewer

/-! ## Followers through a step -/

/-- Whether a follower can have become another one: it stays that of its run, and a cancellation is never
taken back. -/
structure Follower.Continues (f g : Follower) : Prop where
  runId_eq : g.runId = f.runId
  cancelled : f.cancelled = true → g.cancelled = true

theorem Follower.Continues.refl (f : Follower) : f.Continues f := ⟨rfl, id⟩

theorem Follower.Continues.trans {f g h : Follower} (first : f.Continues g) (second : g.Continues h) :
    f.Continues h :=
  ⟨second.runId_eq.trans first.runId_eq, second.cancelled ∘ first.cancelled⟩

namespace Viewer

variable {v u : Viewer} {effects : Effects} {segment : Segment} {n : Nat} {f : Follower}

theorem followers_beginNext (v : Viewer) : v.beginNext.followers = v.followers := by
  unfold beginNext
  split <;> rfl

theorem follower_of_modifyFollower {index : Nat} {g : Follower → Follower}
    (found : v.followers[n]? = some f) (continues : ∀ f : Follower, f.Continues (g f))
    (phase : segment ≠ .follow index → ∀ f, (g f).phase = f.phase) :
    ∃ f', (v.modifyFollower index g).followers[n]? = some f' ∧ f.Continues f' ∧
      (segment ≠ .follow n → f'.phase = f.phase) := by
  refine ⟨_, (List.getElem?_modify g index v.followers n).trans (by rw [found]; rfl), ?_⟩
  split
  · next same => exact ⟨continues f, fun other => phase (same ▸ other) f⟩
  · exact ⟨.refl f, fun _ => rfl⟩

/-- Every follower is still there after a step, and apart from its own turns it stays where it stands. -/
theorem follower_of_step (found : v.followers[n]? = some f)
    (stepped : v.step segment = some (u, effects)) :
    ∃ f', u.followers[n]? = some f' ∧ f.Continues f' ∧ (segment ≠ .follow n → f'.phase = f.phase) := by
  cases segment with
  | call call =>
    cases stepped
    exact ⟨f, by rwa [followers_beginNext], .refl f, fun _ => rfl⟩
  | serve answer =>
    obtain ⟨call, progress, w, -, served, rfl⟩ := served_of_step stepped
    rw [followers_beginNext]
    cases served with
    | proceeds | ends | begins | replaces => exact ⟨f, found, .refl f, fun _ => rfl⟩
    | stops => exact follower_of_modifyFollower found (fun _ => ⟨rfl, fun _ => rfl⟩) fun _ _ => rfl
    | starts =>
      obtain ⟨inside, -⟩ := List.getElem?_eq_some_iff.mp found
      exact ⟨f, (List.getElem?_append_left inside).trans found, .refl f, fun _ => rfl⟩
  | follow index =>
    obtain ⟨f', -, followed⟩ := followed_of_step stepped
    cases followed <;>
      exact follower_of_modifyFollower found (fun _ => ⟨rfl, id⟩) fun other => absurd rfl other
  | arrive index arrival =>
    obtain ⟨f', -, -, -, rfl⟩ := arrived_of_step stepped
    exact follower_of_modifyFollower found (fun _ => ⟨rfl, id⟩) fun _ _ => rfl
  | complete index =>
    cases stepped
    exact follower_of_modifyFollower found (fun _ => ⟨rfl, id⟩) fun _ _ => rfl
  | cancel index =>
    cases stepped
    exact follower_of_modifyFollower found (fun _ => ⟨rfl, fun _ => rfl⟩) fun _ _ => rfl
  | write update =>
    cases stepped
    exact ⟨f, found, .refl f, fun _ => rfl⟩

end Viewer

end Transcript
