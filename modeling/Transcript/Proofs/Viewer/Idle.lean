import Transcript.Proofs.Conversation.Redelivery
import Transcript.Proofs.Storage.LogLines
import Transcript.Proofs.Stream.FrameText
import Transcript.Proofs.Viewer.Finishing
import Transcript.Viewer.Stage

/-! # Recorded runs on an idle stage

On a stage where no call is served and every follower is done nothing moves by itself (`settle_of_idle`).
A recorded run that is started there is followed to its end, and one that is opened there is loaded;
either leaves the stage idle (`startRun_of_idle`, `openRun_of_idle`). So what a whole command makes of
the conversation is what its frames, or its stored run, make of it, whatever is wrong with the log. The
frames of a log that can be read are those of its lines (`startRun_of_log`).
-/

namespace Transcript

open Follower (inputs report)

/-- Whether no caller waits and every follower is done. -/
structure Viewer.Still (v : Viewer) : Prop where
  waiting : v.waiting = []
  done : ∀ f ∈ v.followers, f.isDone = true

namespace Stage

/-- Whether a stage shows recorded runs, and nothing on it can go on but the call that is served. -/
structure Calm (s : Stage) (d : RunDirectory) : Prop where
  recorded : s.source = .recorded d
  still : s.viewer.Still
  asked : ∀ waiter ∈ s.waiters, waiter ≠ .begun

/-- Whether nothing at all can go on. -/
structure Idle (s : Stage) (d : RunDirectory) : Prop extends s.Calm d where
  unserved : s.viewer.serving = none

theorem idle_new (settings : Settings) (d : RunDirectory) (now : Timestamp) (capacity : Nat) :
    (new settings (.recorded d) now capacity).Idle d where
  recorded := rfl
  still := ⟨rfl, by simp [new, Viewer.new]⟩
  asked := by simp [new]
  unserved := rfl

/-- Whether a stage is another one with this viewer, but for what its observers can read. -/
structure Becomes (s : Stage) (v : Viewer) (t : Stage) : Prop where
  viewer : t.viewer = v
  source : t.source = s.source
  now : t.now = s.now
  waiters : t.waiters = s.waiters

variable {s t : Stage} {d : RunDirectory} {v : Viewer} {effects : Effects} {runId : String}

theorem becomes_absorb (recorded : s.source = .recorded d) (v : Viewer) (effects : Effects) :
    s.Becomes v (s.absorb v effects) where
  viewer := rfl
  source := by
    simp only [absorb, recorded]
    split <;> rfl
  now := rfl
  waiters := rfl

theorem Becomes.trans {w : Viewer} {u : Stage} (first : s.Becomes v t) (second : t.Becomes w u) :
    s.Becomes w u :=
  ⟨second.viewer, second.source.trans first.source, second.now.trans first.now,
    second.waiters.trans first.waiters⟩

theorem Becomes.calm (becomes : s.Becomes v t) (calm : s.Calm d) (still : v.Still) : t.Calm d where
  recorded := becomes.source.trans calm.recorded
  still := becomes.viewer ▸ still
  asked := becomes.waiters ▸ calm.asked

theorem run?_of_step {segment : Segment} (stepped : s.viewer.step segment = some (v, effects)) :
    s.run? segment = some (s.absorb v effects, effects.outcome) := by
  rw [run?, stepped]
  rfl

/-! ## Followers -/

/-- A follower that is done does not move. -/
theorem runFollower_of_done {index : Nat} {f : Follower}
    (found : s.viewer.followers[index]? = some f) (done : f.isDone = true) (segments : Nat) :
    s.runFollower index segments = s := by
  have stuck : s.viewer.step (.follow index) = none := by
    simp only [Viewer.step, found, Viewer.followNext]
    cases phase : f.phase with
    | closed | crashed => rfl
    | receiving | delivering | ending => simp [Follower.isDone, phase] at done
  cases segments with
  | zero => rfl
  | succ segments => simp [runFollower, run?, stuck]

theorem runFollower_succ (recorded : s.source = .recorded d) {index : Nat}
    (stepped : s.viewer.step (.follow index) = some (v, effects)) :
    ∃ t, s.Becomes v t ∧
      ∀ segments, s.runFollower index (segments + 1) = t.runFollower index segments := by
  refine ⟨_, becomes_absorb recorded v effects, ?_⟩
  intro segments
  rw [runFollower, run?_of_step stepped]

/-- A follower has the turns of a history that are all its own. -/
theorem runFollower_of_path (recorded : s.source = .recorded d) {index : Nat} {moments : List Moment}
    (path : s.viewer.Path moments v) (own : ∀ m ∈ moments, m.segment = .follow index) :
    ∃ t, s.Becomes v t ∧
      ∀ segments, s.runFollower index (moments.length + segments) = t.runFollower index segments := by
  generalize start : s.viewer = u at path
  induction path generalizing s with
  | nil => exact ⟨s, ⟨start, rfl, rfl, rfl⟩, fun segments => by rw [List.length_nil, Nat.zero_add]⟩
  | @cons _ w _ segment effects rest stepped _ ih =>
    obtain ⟨first, later⟩ := List.forall_mem_cons.mp own
    obtain rfl : segment = .follow index := first
    subst start
    obtain ⟨t, moves, runs⟩ := runFollower_succ recorded stepped
    obtain ⟨u, ends, runsOn⟩ := ih (moves.source.trans recorded) later moves.viewer
    refine ⟨u, moves.trans ends, ?_⟩
    intro segments
    rw [List.length_cons, Nat.add_right_comm, runs, runsOn]

/-- A follower that is free runs to its end. -/
theorem runFollower_of_free (recorded : s.source = .recorded d) {index : Nat} {f : Follower}
    (found : s.viewer.followers[index]? = some f) (free : f.Free s.viewer.conversation.epoch) :
    ∃ g : Follower, g.isDone = true ∧
      s.Becomes (s.viewer.moved index g (Conversation.feed f.untold s.viewer.conversation).1)
        (s.runFollower index (segmentsLeft f)) := by
  obtain ⟨moments, g, path, own, few, closed, -⟩ := Viewer.exists_path_of_free found free
  obtain ⟨t, ends, runs⟩ := runFollower_of_path recorded path own
  have done : g.isDone = true := by simp [Follower.isDone, closed]
  have there : t.viewer.followers[index]? = some g := by
    rw [ends.viewer]
    exact Viewer.followers_moved found _ _
  obtain ⟨spare, enough⟩ := Nat.exists_eq_add_of_le (few.trans f.turnsLeft_le)
  have ran : s.runFollower index (segmentsLeft f) = t := by
    rw [segmentsLeft, enough, runs, runFollower_of_done there done]
  exact ⟨g, done, ran ▸ ends⟩

/-- Followers that are done do not move. -/
theorem foldl_runFollower_of_done {pairs : List (Follower × Nat)}
    (found : ∀ pair ∈ pairs, s.viewer.followers[pair.2]? = some pair.1)
    (done : ∀ pair ∈ pairs, pair.1.isDone = true) :
    pairs.foldl (fun s pair => s.runFollower pair.2 (segmentsLeft pair.1)) s = s := by
  induction pairs with
  | nil => rfl
  | cons pair rest ih =>
    obtain ⟨here, later⟩ := List.forall_mem_cons.mp found
    obtain ⟨doneHere, doneLater⟩ := List.forall_mem_cons.mp done
    rw [List.foldl_cons, runFollower_of_done here doneHere]
    exact ih later doneLater

theorem runFollowers_of_still (still : s.viewer.Still) : s.runFollowers = s := by
  apply foldl_runFollower_of_done
  · intro pair member
    exact List.mem_zipIdx_iff_getElem?.mp member
  · intro pair member
    exact still.done pair.1 (List.mem_of_getElem? (List.mem_zipIdx_iff_getElem?.mp member))

/-- Of followers of which only the last one can move it does. -/
theorem runFollowers_of_free (recorded : s.source = .recorded d) {earlier : List Follower}
    {f : Follower} (done : ∀ f ∈ earlier, f.isDone = true)
    (followers : s.viewer.followers = earlier ++ [f])
    (free : f.Free s.viewer.conversation.epoch) :
    ∃ g : Follower, g.isDone = true ∧ s.Becomes
      { s.viewer with
        conversation := (Conversation.feed f.untold s.viewer.conversation).1
        followers := earlier ++ [g] }
      s.runFollowers := by
  have first : earlier.zipIdx.foldl
      (fun s pair => s.runFollower pair.2 (segmentsLeft pair.1)) s = s := by
    apply foldl_runFollower_of_done
    · intro pair member
      have there := List.mem_zipIdx_iff_getElem?.mp member
      obtain ⟨bound, -⟩ := List.getElem?_eq_some_iff.mp there
      rw [followers, List.getElem?_append_left bound]
      exact there
    · intro pair member
      exact done pair.1 (List.mem_of_getElem? (List.mem_zipIdx_iff_getElem?.mp member))
  have found : s.viewer.followers[earlier.length]? = some f := by
    simp [followers]
  obtain ⟨g, doneLast, last⟩ := runFollower_of_free recorded found free
  have all : s.runFollowers = s.runFollower earlier.length (segmentsLeft f) := by
    change s.viewer.followers.zipIdx.foldl
      (fun s pair => s.runFollower pair.2 (segmentsLeft pair.1)) s = _
    rw [followers, List.zipIdx_append, List.foldl_append, first]
    simp
  have moved : s.viewer.moved earlier.length g
      (Conversation.feed f.untold s.viewer.conversation).1 =
        { s.viewer with
          conversation := (Conversation.feed f.untold s.viewer.conversation).1
          followers := earlier ++ [g] } := by
    simp [Viewer.moved, followers]
  exact ⟨g, doneLast, all ▸ moved ▸ last⟩

/-- Waiters that were told what is followed ask no more. -/
theorem askWaiters_of_asked (asked : ∀ waiter ∈ s.waiters, waiter ≠ .begun) : s.askWaiters = s := by
  have same : (s.waiters.map fun waiter => if waiter = .begun then .asking else waiter) = s.waiters :=
    (List.map_congr_left fun waiter member => if_neg (asked waiter member)).trans
      (List.map_id' s.waiters)
  have quiet : s.waiters.foldl
      (fun s waiter => if waiter = .begun then s.run (.call .followed) else s) s = s := by
    generalize s.waiters = waiters at asked
    induction waiters with
    | nil => rfl
    | cons waiter rest ih =>
      obtain ⟨first, later⟩ := List.forall_mem_cons.mp asked
      rw [List.foldl_cons, if_neg first, ih later]
  rw [askWaiters, same]
  exact quiet

theorem serveWaiters_of_unserved (unserved : s.viewer.serving = none) (waiters : Nat) :
    s.serveWaiters waiters = s := by
  cases waiters with
  | zero => rfl
  | succ waiters => simp only [serveWaiters, unserved]

/-- Where nobody asks, the followers are all that moves. -/
theorem settle_of_runFollowers (followed : s.runFollowers = t)
    (asked : ∀ waiter ∈ t.waiters, waiter ≠ .begun) (unserved : t.viewer.serving = none) :
    s.settle = t := by
  rw [settle, followed, askWaiters_of_asked asked]
  exact serveWaiters_of_unserved unserved _

/-- Nothing moves on an idle stage. -/
theorem settle_of_idle (idle : s.Idle d) : s.settle = s :=
  settle_of_runFollowers (runFollowers_of_still idle.still) idle.asked idle.unserved

/-! ## Calls -/

end Stage

namespace Viewer

variable {v u : Viewer} {call : Call} {progress : Progress} {answer : Answer} {effects : Effects}

theorem beginNext_of_waiting (waiting : v.waiting = []) : v.beginNext = v := by
  unfold beginNext
  split
  · next waits => rw [waiting] at waits; contradiction
  · rfl

/-- Where no caller waits, a segment of a call is all that happens. -/
theorem step_serve (serving : v.serving = some (call, progress))
    (served : v.serve call progress answer = some (u, effects)) (waiting : u.waiting = []) :
    v.step (.serve answer) = some (u, effects) := by
  simp only [step, serving, served, Option.map_some, beginNext_of_waiting waiting]

end Viewer

namespace Stage

variable {s t : Stage} {d : RunDirectory} {v : Viewer} {effects : Effects} {runId : String}

/-- What is recorded stays as it is when it is asked for. -/
theorem answer_recorded (d : RunDirectory) (now : Timestamp) (call : Call) (progress : Progress)
    (follower : Nat) :
    ((Source.recorded d).answer now call progress follower).2 = .recorded d := by
  unfold Source.answer
  split <;> rfl

/-- A segment of a call that does not end it is followed by the others. -/
theorem serveCall_succ (recorded : s.source = .recorded d) {call : Call} {progress : Progress}
    (own : call ≠ .followed) (serving : s.viewer.serving = some (call, progress))
    (served : s.viewer.serve call progress
      ((Source.recorded d).answer s.now call progress s.viewer.followers.length).1 =
        some (v, effects))
    (waiting : v.waiting = []) :
    ∃ t, s.Becomes v t ∧ ∀ segments, s.serveCall (segments + 1) =
      effects.outcome.elim (t.serveCall segments) fun outcome => (t, some outcome) := by
  refine ⟨_, becomes_absorb recorded v effects, ?_⟩
  intro segments
  have ran := run?_of_step (Viewer.step_serve serving served waiting)
  have same : { s with source := ((Source.recorded d).answer s.now call progress
      s.viewer.followers.length).2 } = s := by
    rw [answer_recorded, ← recorded]
  rw [serveCall, serving]
  split
  · contradiction
  · next same =>
    cases same
    exact absurd rfl own
  · next call' progress' _ there =>
    cases there
    dsimp only
    rw [recorded, same, ran]
    cases effects.outcome <;> rfl

/-- Whether a call stands here, on a stage that is calm otherwise. -/
structure Stands (s : Stage) (d : RunDirectory) (now : Timestamp) (call : Call) (progress : Progress)
    (c : Conversation) : Prop extends s.Calm d where
  own : call ≠ .followed
  time : s.now = now
  serving : s.viewer.serving = some (call, progress)
  conversation : s.viewer.conversation = c

namespace Stands

variable {now : Timestamp} {call : Call} {progress next : Progress} {c : Conversation}

/-- The call goes on. -/
theorem goOn (stands : s.Stands d now call progress c)
    (served : s.viewer.serve call progress
      ((Source.recorded d).answer now call progress s.viewer.followers.length).1 = some (v, effects))
    (still : v.Still) (serving : v.serving = some (call, next))
    (unfinished : effects.outcome = none) :
    ∃ t : Stage, t.Stands d now call next v.conversation ∧
      ∀ segments, s.serveCall (segments + 1) = t.serveCall segments := by
  rw [← stands.time] at served
  obtain ⟨t, becomes, serves⟩ :=
    serveCall_succ stands.recorded stands.own stands.serving served still.waiting
  rw [unfinished] at serves
  exact ⟨t, {
    toCalm := becomes.calm stands.toCalm still
    own := stands.own
    time := becomes.now.trans stands.time
    serving := becomes.viewer ▸ serving
    conversation := becomes.viewer ▸ rfl }, serves⟩

/-- The call is over. -/
theorem finish (stands : s.Stands d now call progress c) {outcome : Outcome}
    (served : s.viewer.serve call progress
      ((Source.recorded d).answer now call progress s.viewer.followers.length).1 = some (v, effects))
    (waiting : v.waiting = []) (finished : effects.outcome = some outcome) :
    ∃ t : Stage, s.Becomes v t ∧ ∀ segments, s.serveCall (segments + 1) = (t, some outcome) := by
  rw [← stands.time] at served
  obtain ⟨t, becomes, serves⟩ :=
    serveCall_succ stands.recorded stands.own stands.serving served waiting
  rw [finished] at serves
  exact ⟨t, becomes, serves⟩

/-- A call that replaces what is shown first takes the follower, which is done. There are three segments
left then, and more. -/
theorem stop (stands : s.Stands d now call .entered c)
    (enters : ∀ v : Viewer, v.enter call = v.stop call)
    (goesOn : ∀ v : Viewer, v.afterStop call = (v.proceed call next, {})) :
    ∃ (t : Stage) (left : Nat), t.Stands d now call next c ∧
      s.serveCall callSegments = t.serveCall (left + 3) := by
  cases followed : s.viewer.current with
  | none =>
    have served : s.viewer.enter call = (s.viewer.proceed call next, {}) := by
      rw [enters, Viewer.stop, followed]
      exact goesOn s.viewer
    obtain ⟨t, there, serves⟩ :=
      stands.goOn (congrArg some served) ⟨stands.still.waiting, stands.still.done⟩ rfl rfl
    exact ⟨t, 4, stands.conversation ▸ there, serves 7⟩
  | some index =>
    have done : ∀ f ∈ s.viewer.followers.modify index fun f => { f with cancelled := true },
        f.isDone = true := by
      intro f member
      obtain ⟨i, there⟩ := List.mem_iff_getElem?.mp member
      rw [List.getElem?_modify] at there
      obtain ⟨g, found, rfl⟩ := Option.map_eq_some_iff.mp there
      have before := stands.still.done g (List.mem_of_getElem? found)
      split <;> exact before
    have served : s.viewer.enter call =
        ((s.viewer.unfollow index).proceed call (.aborting index),
          { abort := s.viewer.followers[index]?.map Follower.runId }) := by
      rw [enters, Viewer.stop, followed]
      rfl
    obtain ⟨t, aborting, first⟩ :=
      stands.goOn (congrArg some served) ⟨stands.still.waiting, done⟩ rfl rfl
    have aborted : t.viewer.serve call (.aborting index) ((Source.recorded d).answer now call
        (.aborting index) t.viewer.followers.length).1 =
          some (t.viewer.proceed call (.joining index), {}) := rfl
    obtain ⟨u, joining, second⟩ :=
      aborting.goOn aborted ⟨aborting.still.waiting, aborting.still.done⟩ rfl rfl
    have joined : u.viewer.followers[index]?.all Follower.isDone = true := by
      rw [Option.all_eq_true]
      exact fun f found => joining.still.done f (List.mem_of_getElem? found)
    have proceeds : u.viewer.serve call (.joining index) ((Source.recorded d).answer now call
        (.joining index) u.viewer.followers.length).1 = some (u.viewer.proceed call next, {}) := by
      simp only [Viewer.serve, joined, if_true, goesOn]
    obtain ⟨w, stopped, third⟩ :=
      joining.goOn proceeds ⟨joining.still.waiting, joining.still.done⟩ rfl rfl
    have kept : u.viewer.conversation = c :=
      joining.conversation.trans (aborting.conversation.trans stands.conversation)
    exact ⟨w, 2, kept ▸ stopped, (first 7).trans ((second 6).trans (third 5))⟩

end Stands

/-- On an idle stage a call is served at once. -/
theorem Idle.stands (idle : s.Idle d) {call : Call} (own : call ≠ .followed) :
    (s.run (.call call)).Stands d s.now call .entered s.viewer.conversation := by
  have stepped : s.viewer.step (.call call) =
      some ({ s.viewer with serving := some (call, .entered), waiting := [] }, {}) := by
    have waits : ({ s.viewer with waiting := [call] } : Viewer).beginNext =
        { s.viewer with serving := some (call, .entered), waiting := [] } := by
      simp only [Viewer.beginNext, idle.unserved]
    simp only [Viewer.step, idle.still.waiting, List.nil_append, waits]
  have becomes := becomes_absorb idle.recorded
    { s.viewer with serving := some (call, .entered), waiting := [] } {}
  rw [run, run?_of_step stepped]
  exact {
    toCalm := becomes.calm idle.toCalm ⟨rfl, idle.still.done⟩
    own
    time := rfl
    serving := rfl
    conversation := rfl }

/-- A stored run that is opened on an idle stage is shown. -/
theorem openRun_of_idle (idle : s.Idle d) {run : Run} (stored : d.fetchRun s.now runId = .ok run) :
    let after := s.carryOut false (.openRun runId)
    after.1.Idle d ∧ after.2 = .outcome (some .opened) ∧
      after.1.viewer.conversation = (Conversation.load run s.viewer.conversation).1 := by
  intro after
  have entered := idle.stands (show Call.openRun runId ≠ .followed by simp)
  obtain ⟨t, left, fetching, stops⟩ := entered.stop (fun _ => rfl) (fun _ => rfl)
  have fetched : t.viewer.serve (.openRun runId) .fetching ((Source.recorded d).answer s.now
      (.openRun runId) .fetching t.viewer.followers.length).1 =
        some (t.viewer.proceed (.openRun runId) (.showing run), {}) := by
    simp only [Source.answer, Source.fetch, stored, Viewer.serve]
  obtain ⟨u, showing, fetches⟩ :=
    fetching.goOn fetched ⟨fetching.still.waiting, fetching.still.done⟩ rfl rfl
  obtain ⟨w, shown, shows⟩ := showing.finish rfl showing.still.waiting rfl
  have called : s.call (.openRun runId) = (w, some .opened) :=
    stops.trans ((fetches _).trans (shows _))
  have idleAfter : w.Idle d := {
    toCalm := shown.calm showing.toCalm ⟨showing.still.waiting, showing.still.done⟩
    unserved := shown.viewer ▸ rfl }
  have carried : after = (w, .outcome (some .opened)) := by
    simp only [after, carryOut, perform, called, Bool.false_eq_true, if_false, settle_of_idle idleAfter]
  rw [carried]
  refine ⟨idleAfter, rfl, ?_⟩
  have kept : u.viewer.conversation = s.viewer.conversation :=
    showing.conversation.trans fetching.conversation
  rw [shown.viewer, ← kept]
  rfl

/-- Whether a stage is idle but for a follower that has not begun to read these frames. -/
structure Following (s : Stage) (d : RunDirectory) (frames : List Frame) (c : Conversation) : Prop where
  recorded : s.source = .recorded d
  asked : ∀ waiter ∈ s.waiters, waiter ≠ .begun
  waiting : s.viewer.waiting = []
  unserved : s.viewer.serving = none
  conversation : s.viewer.conversation = c
  followers : ∃ (earlier : List Follower) (f : Follower), (∀ g ∈ earlier, g.isDone = true) ∧
    s.viewer.followers = earlier ++ [f] ∧ f.Free c.epoch ∧ f.untold = report frames

/-- The follower reads to its end, and then the stage is idle. -/
theorem Following.settle {frames : List Frame} {c : Conversation}
    (following : s.Following d frames c) :
    s.settle.Idle d ∧ s.settle.viewer.conversation = (Conversation.feed (report frames) c).1 := by
  obtain ⟨earlier, f, done, followers, free, untold⟩ := following.followers
  rw [← following.conversation] at free
  obtain ⟨g, doneLast, read⟩ := runFollowers_of_free following.recorded done followers free
  have idle : s.runFollowers.Idle d := {
    recorded := read.source.trans following.recorded
    still := by
      rw [read.viewer]
      refine ⟨following.waiting, ?_⟩
      intro f member
      rcases List.mem_append.mp member with before | last
      · exact done f before
      · exact List.mem_singleton.mp last ▸ doneLast
    asked := read.waiters ▸ following.asked
    unserved := read.viewer ▸ following.unserved }
  rw [settle_of_runFollowers rfl idle.asked idle.unserved]
  refine ⟨idle, ?_⟩
  rw [read.viewer, untold, following.conversation]

end Stage

/-! ## Logs -/

/-- The frame that an entry of a log is: what is wrong with the log is a failure. -/
def Frame.ofEntry : Except DeliveryError Frame → Frame
  | .ok frame => frame
  | .error error => .failure error.message

/-- The frames that a recorded run brings. A log that cannot be opened is a failure and nothing else. -/
def RunDirectory.recorded (d : RunDirectory) (runId : String) : List Frame :=
  match d.logFrames runId with
  | .ok entries => entries.map Frame.ofEntry
  | .error error => [.failure error.message]

/-- The frames of a log are what its entries are. -/
theorem Source.frame?_logStream (entries : List (Except DeliveryError Frame)) :
    (logStream entries).queue.map Arrival.frame? = entries.map fun entry => some (.ofEntry entry) := by
  rw [logStream, List.map_map]
  apply List.map_congr_left
  intro entry _
  cases entry <;> rfl

/-- The follower of a log has all of its frames to tell. -/
theorem Follower.untold_logStream (runId : String) (epoch : Nat)
    (entries : List (Except DeliveryError Frame)) :
    let f : Follower := ⟨runId, Source.logStream entries, epoch, false, .receiving⟩
    f.Free epoch ∧ f.untold = report (entries.map Frame.ofEntry) := by
  have frames := Source.frame?_logStream entries
  constructor
  · refine ⟨rfl, rfl, rfl, ?_, by simp⟩
    intro broken
    have unreadable := List.mem_map_of_mem (f := Arrival.frame?) broken
    rw [frames] at unreadable
    simp [Arrival.frame?] at unreadable
  · have unread : (Source.logStream entries).queue.filterMap Arrival.frame? =
        entries.map Frame.ofEntry := by
      simpa [List.filterMap_map] using congrArg (List.filterMap id) frames
    rw [untold, Follower.unread, unread]

namespace Stage

variable {s : Stage} {d : RunDirectory} {runId : String}

/-- A run that is started on an idle stage begins its conversation. -/
theorem exists_starting_of_idle (idle : s.Idle d) (runId : String) :
    let start := (Conversation.beginRun runId s.viewer.conversation).1
    ∃ (t : Stage) (left : Nat), t.Stands d s.now (.startRun runId) (.starting start.epoch) start ∧
      s.call (.startRun runId) = t.serveCall (left + 2) := by
  intro start
  have entered := idle.stands (show Call.startRun runId ≠ .followed by simp)
  obtain ⟨t, left, clearing, stops⟩ := entered.stop (fun _ => rfl) (fun _ => rfl)
  have cleared : t.viewer.clear (.startRun runId) =
      ({ t.viewer with conversation := start }.proceed (.startRun runId) (.starting start.epoch),
        { changes := [.reset] }) := by
    simp only [start, ← clearing.conversation]
    rfl
  obtain ⟨u, starting, clears⟩ := clearing.goOn (congrArg some cleared)
    ⟨clearing.still.waiting, clearing.still.done⟩ rfl rfl
  exact ⟨u, left, starting, stops.trans (clears _)⟩

/-- A recorded run that is started on an idle stage has a follower then. -/
theorem exists_following_of_idle (idle : s.Idle d) {entries : List (Except DeliveryError Frame)}
    (log : d.logFrames runId = .ok entries) :
    ∃ t : Stage, s.call (.startRun runId) = (t, some .started) ∧
      t.Following d (entries.map .ofEntry) (Conversation.beginRun runId s.viewer.conversation).1 := by
  obtain ⟨t, left, starting, begins⟩ := exists_starting_of_idle idle runId
  generalize start_eq : (Conversation.beginRun runId s.viewer.conversation).1 = start at starting ⊢
  have served : t.viewer.serve (.startRun runId) (.starting start.epoch)
      ((Source.recorded d).answer s.now (.startRun runId) (.starting start.epoch)
        t.viewer.followers.length).1 =
          some (t.viewer.follow runId start.epoch (Source.logStream entries)) := by
    simp only [Source.answer, Source.start, log, Except.map, Viewer.serve]
  obtain ⟨u, started, starts⟩ := starting.finish served starting.still.waiting rfl
  refine ⟨u, begins.trans (starts _), ?_⟩
  obtain ⟨free, untold⟩ := Follower.untold_logStream runId start.epoch entries
  exact {
    recorded := started.source.trans starting.recorded
    asked := started.waiters ▸ starting.asked
    waiting := started.viewer ▸ starting.still.waiting
    unserved := started.viewer ▸ rfl
    conversation := by
      rw [started.viewer]
      exact starting.conversation
    followers := ⟨t.viewer.followers, _, starting.still.done, by rw [started.viewer]; rfl, free,
      untold⟩ }

/-- A log that cannot be opened is shown as a failure, and nothing is followed. -/
theorem exists_idle_of_unopened (idle : s.Idle d) {error : DeliveryError}
    (log : d.logFrames runId = .error error) :
    ∃ t : Stage, s.call (.startRun runId) = (t, some (.failed error)) ∧ t.Idle d ∧
      t.viewer.conversation = (Conversation.feed (report [.failure error.message])
        (Conversation.beginRun runId s.viewer.conversation).1).1 := by
  obtain ⟨t, left, starting, begins⟩ := exists_starting_of_idle idle runId
  generalize start_eq : (Conversation.beginRun runId s.viewer.conversation).1 = start at starting ⊢
  have served : t.viewer.serve (.startRun runId) (.starting start.epoch)
      ((Source.recorded d).answer s.now (.startRun runId) (.starting start.epoch)
        t.viewer.followers.length).1 =
          some (t.viewer.proceed (.startRun runId) (.failing error), {}) := by
    simp only [Source.answer, Source.start, log, Except.map, Viewer.serve]
  obtain ⟨u, failing, fails⟩ := starting.goOn served
    ⟨starting.still.waiting, starting.still.done⟩ rfl rfl
  obtain ⟨w, shown, shows⟩ := failing.finish rfl failing.still.waiting rfl
  refine ⟨w, begins.trans ((fails _).trans (shows _)), ?_, ?_⟩
  · exact {
      toCalm := shown.calm failing.toCalm ⟨failing.still.waiting, failing.still.done⟩
      unserved := shown.viewer ▸ rfl }
  · have kept : u.viewer.conversation = start := failing.conversation.trans starting.conversation
    rw [shown.viewer, ← kept]
    rfl

/-- A recorded run that is started on an idle stage tells all that there is to tell of its log. -/
theorem startRun_of_idle (idle : s.Idle d) (runId : String) :
    let after := s.carryOut false (.startRun runId)
    after.1.Idle d ∧
      after.1.viewer.conversation = (Conversation.feed (report (d.recorded runId))
        (Conversation.beginRun runId s.viewer.conversation).1).1 ∧
      (∀ entries, d.logFrames runId = .ok entries → after.2 = .outcome (some .started)) ∧
      ∀ error, d.logFrames runId = .error error → after.2 = .outcome (some (.failed error)) := by
  intro after
  cases log : d.logFrames runId with
  | ok entries =>
    obtain ⟨t, called, following⟩ := exists_following_of_idle idle log
    obtain ⟨idleAfter, shown⟩ := following.settle
    have carried : after = (t.settle, .outcome (some .started)) := by
      simp only [after, carryOut, perform, startRun, called, following.recorded, Source.isRecorded,
        settle_of_idle idleAfter, Bool.false_eq_true, if_true, if_false]
    have frames : d.recorded runId = entries.map .ofEntry := by rw [RunDirectory.recorded, log]
    rw [carried, frames]
    exact ⟨idleAfter, shown, fun _ _ => rfl, by simp⟩
  | error error =>
    obtain ⟨t, called, idleAfter, shown⟩ := exists_idle_of_unopened idle log
    have carried : after = (t, .outcome (some (.failed error))) := by
      simp only [after, carryOut, perform, startRun, called, settle_of_idle idleAfter, ite_self]
    have frames : d.recorded runId = [.failure error.message] := by rw [RunDirectory.recorded, log]
    rw [carried, frames]
    refine ⟨idleAfter, shown, by simp, ?_⟩
    rintro other same
    cases same
    rfl

/-- A log of these lines that is started on an idle stage makes a run of the frames that the lines
are, blank ones left out. -/
theorem startRun_of_log (idle : s.Idle d) {bytes : List UInt8} {lines : List String}
    (log : d.content runId "jsonl" = .bytes bytes) (holds : RunLog.Holds bytes lines) :
    let after := s.carryOut false (.startRun runId)
    after.1.Idle d ∧ after.2 = .outcome (some .started) ∧
      after.1.viewer.conversation = s.viewer.conversation.afterRun runId
        ((lines.filter fun line => !Text.isAllBlank line).map Frame.ofText) := by
  have whole : Frame.AllWhole ((lines.filter fun line => !Text.isAllBlank line).map Frame.ofText) := by
    intro frame member
    obtain ⟨line, -, rfl⟩ := List.mem_map.mp member
    exact Frame.isFailure_ofText line
  have entries := RunDirectory.logFrames_of_holds log holds
  have frames : d.recorded runId =
      (lines.filter fun line => !Text.isAllBlank line).map Frame.ofText := by
    simp only [RunDirectory.recorded, entries, List.map_map]
    rfl
  obtain ⟨idleAfter, shown, started, -⟩ := startRun_of_idle idle runId
  refine ⟨idleAfter, started _ entries, shown.trans ?_⟩
  rw [frames, Follower.report_of_allWhole whole, inputs, if_pos rfl, Conversation.feed_concat]
  rfl

end Stage

end Transcript
