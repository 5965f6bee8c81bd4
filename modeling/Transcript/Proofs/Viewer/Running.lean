import Transcript.Proofs.Viewer.Path
import Transcript.Proofs.Viewer.Turn

/-! # One follower is running at most

A follower that is not done is the one of the stream that is followed, or else the one that a call is
stopping (`OneRunning`). Every segment keeps that, whatever the order of turns, and also if others change
the conversation meanwhile or cancel a follower. So a call that has stopped the stream that there was finds
no follower running (`OneRunning.allDone_of_stopped`).
-/

namespace Transcript

/-- The follower that a call is stopping. -/
def Progress.stopping? : Progress → Option Nat
  | .aborting index | .joining index => some index
  | .entered | .clearing | .starting _ | .fetching | .showing _ | .failing _ => none

theorem Follower.isDone_iff (f : Follower) : f.isDone = true ↔ f.phase = .closed ∨ f.phase = .crashed := by
  simp [isDone]

namespace Viewer

variable {v u : Viewer} {call : Call} {progress : Progress} {answer : Answer} {effects : Effects}

/-- Whether a follower that is not done is the one of the stream that is followed, or else the one that
a call is stopping. -/
structure OneRunning (v : Viewer) : Prop where
  running : ∀ i f, v.followers[i]? = some f → f.isDone = false →
    v.current = some i ∨ ∃ call progress,
      v.serving = some (call, progress) ∧ progress.stopping? = some i
  /-- A call goes on only once no stream is followed. -/
  stopped : ∀ call progress,
    v.serving = some (call, progress) → progress ≠ .entered → v.current = none

theorem oneRunning_new (settings : Settings) : (new settings).OneRunning where
  running := by simp [new]
  stopped := by simp [new]

/-- Whether no follower is running. -/
def AllDone (v : Viewer) : Prop :=
  ∀ (i : Nat) (f : Follower), v.followers[i]? = some f → f.isDone = true

/-- The follower of a new stream comes last. -/
theorem follower_of_follow {runId : String} {epoch : Nat} {stream : Stream} {i : Nat} {f : Follower}
    (found : (v.follow runId epoch stream).1.followers[i]? = some f) :
    v.followers[i]? = some f ∨ i = v.followers.length ∧ f = ⟨runId, stream, epoch, false, .receiving⟩ := by
  change (v.followers ++ [_])[i]? = some f at found
  rw [List.getElem?_append] at found
  split at found
  · exact .inl found
  next beyond =>
    simp only [List.getElem?_singleton, Option.ite_none_right_eq_some, Option.some.injEq] at found
    exact .inr ⟨by omega, found.2.symm⟩

namespace AllDone

theorem oneRunning (done : v.AllDone) (idle : v.current = none) : v.OneRunning where
  running := by
    intro i f found running
    simp [done i f found] at running
  stopped := fun _ _ _ _ => idle

theorem serve {next : Viewer × Effects} (done : v.AllDone) (idle : v.current = none)
    (served : Served v call progress answer next) : next.1.OneRunning := by
  cases served with
  | proceeds | ends | begins | replaces => exact oneRunning (v := _) done idle
  | stops current =>
    rw [idle] at current
    contradiction
  | starts =>
    constructor
    · intro i f found running
      obtain there | ⟨rfl, rfl⟩ := follower_of_follow found
      · simp [done i f there] at running
      · exact .inl rfl
    · simp [follow, finish]

end AllDone

namespace OneRunning

theorem allDone (one : v.OneRunning) (idle : v.current = none)
    (joined : ∀ call progress i f, v.serving = some (call, progress) →
      progress.stopping? = some i → v.followers[i]? = some f → f.isDone = true) : v.AllDone := by
  intro i f found
  by_contra running
  rcases one.running i f found (Bool.eq_false_iff.mpr running) with
    current | ⟨call, progress, serving, stopping⟩
  · rw [idle] at current
    contradiction
  · exact running (joined call progress i f serving stopping found)

/-- A call that has stopped the stream that there was finds no follower running. -/
theorem allDone_of_stopped (one : v.OneRunning) (serving : v.serving = some (call, progress))
    (entered : progress ≠ .entered) (stopped : progress.stopping? = none) : v.AllDone := by
  apply one.allDone (one.stopped call progress serving entered)
  intro _ _ i _ same stopping
  cases serving.symm.trans same
  rw [stopped] at stopping
  contradiction

theorem unique (one : v.OneRunning) {i j : Nat} {f g : Follower}
    (first : v.followers[i]? = some f) (running : f.isDone = false)
    (second : v.followers[j]? = some g) (running' : g.isDone = false) : i = j := by
  have apart : ∀ i, v.current = some i → ∀ call progress, v.serving = some (call, progress) →
      progress.stopping? = none := by
    intro i current call progress serving
    by_contra stopping
    have entered : progress ≠ .entered := by
      rintro rfl
      exact stopping rfl
    rw [one.stopped call progress serving entered] at current
    contradiction
  rcases one.running i f first running with current | ⟨call, progress, serving, stopping⟩ <;>
    rcases one.running j g second running' with current' | ⟨call', progress', serving', stopping'⟩
  · exact Option.some.inj (current.symm.trans current')
  · rw [apart i current call' progress' serving'] at stopping'
    contradiction
  · rw [apart j current' call progress serving] at stopping
    contradiction
  · cases serving.symm.trans serving'
    exact Option.some.inj (stopping.symm.trans stopping')

theorem beginNext (one : v.OneRunning) : v.beginNext.OneRunning := by
  unfold Viewer.beginNext
  split
  next call waiting serving _ =>
    constructor
    · intro i f found running
      rcases one.running i f found running with current | ⟨_, _, same, _⟩
      · exact .inl current
      · rw [serving] at same
        contradiction
    · simp
  · exact one

/-- A follower may change in any way in which it does not start to run again. -/
theorem modifyFollower (one : v.OneRunning) (index : Nat) {g : Follower → Follower}
    (kept : ∀ f, v.followers[index]? = some f → (g f).isDone = false → f.isDone = false) :
    (v.modifyFollower index g).OneRunning :=
  { one with
    running := by
      intro i f found running
      obtain ⟨old, there, rfl⟩ := Option.map_eq_some_iff.mp
        ((List.getElem?_modify g index v.followers i).symm.trans found)
      apply one.running i old there
      split at running
      next same =>
        subst same
        exact kept old there running
      · exact running }

/-- A call that comes in stops the follower of the stream that is followed, or finds none running, or is
over at once. -/
theorem serve_entered {next : Viewer × Effects} (one : v.OneRunning)
    (serving : v.serving = some (call, .entered))
    (served : Served v call .entered answer next) : next.1.OneRunning := by
  have unstopped : ∀ call' progress', v.serving = some (call', progress') →
      progress'.stopping? = none := by
    intro _ _ same
    cases serving.symm.trans same
    rfl
  have following : ∀ i f, v.followers[i]? = some f → f.isDone = false → v.current = some i := by
    intro i f found running
    rcases one.running i f found running with current | ⟨_, _, same, stopping⟩
    · exact current
    · rw [unstopped _ _ same] at stopping
      contradiction
  cases served with
  | proceeds stopped =>
    have done : v.AllDone := one.allDone (stopped rfl) fun _ _ _ _ same stopping => by
      rw [unstopped _ _ same] at stopping
      contradiction
    exact AllDone.oneRunning (v := _) done (stopped rfl)
  | ends =>
    exact ⟨fun i f found running => .inl (following i f found running), by simp [finish]⟩
  | @stops index _ _ current =>
    constructor
    · intro i f found running
      obtain ⟨old, there, rfl⟩ := Option.map_eq_some_iff.mp
        ((List.getElem?_modify _ index v.followers i).symm.trans found)
      have unchanged : old.isDone = false := by
        split at running <;> exact running
      have same : index = i := Option.some.inj (current.symm.trans (following i old there unchanged))
      exact .inr ⟨call, .aborting index, rfl, congrArg some same⟩
    · exact fun _ _ _ _ => rfl
  | replaces _ entered => contradiction

theorem serve {next : Viewer × Effects} (one : v.OneRunning)
    (serving : v.serving = some (call, progress))
    (served : v.serve call progress answer = some next) : next.1.OneRunning := by
  have shape := served_of_serve served
  cases progress with
  | entered => exact one.serve_entered serving shape
  | aborting index =>
    obtain rfl := Option.some.inj served
    have idle : v.current = none := one.stopped call _ serving (by simp)
    constructor
    · intro i f found running
      rcases one.running i f found running with current | ⟨_, _, same, stopping⟩
      · rw [idle] at current
        contradiction
      · cases serving.symm.trans same
        exact .inr ⟨call, .joining index, rfl, stopping⟩
    · exact fun _ _ _ _ => idle
  | joining index =>
    have idle : v.current = none := one.stopped call _ serving (by simp)
    simp only [Viewer.serve, Option.ite_none_right_eq_some] at served
    -- The call has waited for the follower that it stopped, the only one that could still run.
    have done : v.AllDone := one.allDone idle fun _ _ i f same stopping found => by
      cases serving.symm.trans same
      cases stopping
      simpa [found] using served.1
    exact done.serve idle shape
  | clearing | starting | fetching | showing | failing =>
    have idle : v.current = none := one.stopped call _ serving (by simp)
    exact (one.allDone_of_stopped serving (by simp) rfl).serve idle shape

theorem followNext {index : Nat} {f : Follower} {effects : Effects} (one : v.OneRunning)
    (found : v.followers[index]? = some f) (followed : Followed v index f (u, effects)) :
    u.OneRunning := by
  have kept (g : Follower → Follower) : (v.modifyFollower index g).OneRunning :=
    one.modifyFollower index fun old there _ => by
      cases found.symm.trans there
      exact followed.running
  cases followed with
  | givesUp | exhausts | reads | breaks => exact kept _
  | delivers | settles => exact { kept _ with }

end OneRunning

theorem oneRunning_step {segment : Segment} (one : v.OneRunning)
    (stepped : v.step segment = some (u, effects)) : u.OneRunning := by
  cases segment with
  | call call =>
    cases stepped
    exact OneRunning.beginNext { one with }
  | serve answer =>
    obtain ⟨call, progress, w, serving, served, rfl⟩ := serve_of_step stepped
    exact (one.serve serving served).beginNext
  | follow index =>
    obtain ⟨f, found, followed⟩ := followed_of_step stepped
    exact one.followNext found followed
  | arrive index arrival =>
    obtain ⟨f, -, -, -, rfl⟩ := arrived_of_step stepped
    exact one.modifyFollower index fun _ _ => id
  | complete index =>
    cases stepped
    exact one.modifyFollower index fun _ _ => id
  | cancel index =>
    cases stepped
    exact one.modifyFollower index fun _ _ => id
  | write update =>
    cases stepped
    exact { one with }

theorem oneRunning_of_path {moments : List Moment} (one : v.OneRunning) (path : v.Path moments u) :
    u.OneRunning := by
  induction path with
  | nil => exact one
  | cons stepped _ ih => exact ih (oneRunning_step one stepped)

/-! ## A follower while others have their turns -/

variable {n : Nat} {f : Follower} {segment : Segment}

/-- Apart from its own turns, a follower stays where it stands. -/
theorem keeps_of_step (found : v.followers[n]? = some f)
    (stepped : v.step segment = some (u, effects)) (other : segment ≠ .follow n) :
    ∃ f', u.followers[n]? = some f' ∧ f'.runId = f.runId ∧ f'.phase = f.phase := by
  obtain ⟨f', there, continues, phase⟩ := follower_of_step found stepped
  exact ⟨f', there, continues.runId_eq, phase other⟩

/-- A follower that is done has no more turns. -/
theorem not_follow_of_done (found : v.followers[n]? = some f) (done : f.isDone = true)
    (stepped : v.step segment = some (u, effects)) : segment ≠ .follow n := by
  rintro rfl
  obtain ⟨f', there, followed⟩ := followed_of_step stepped
  cases found.symm.trans there
  rw [followed.running] at done
  contradiction

theorem keeps_of_done {moments : List Moment} (path : v.Path moments u)
    (found : v.followers[n]? = some f) (done : f.isDone = true) :
    (∃ f', u.followers[n]? = some f' ∧ f'.runId = f.runId ∧ f'.phase = f.phase) ∧
      ∀ m ∈ moments, m.segment ≠ .follow n := by
  induction path generalizing f with
  | nil => exact ⟨⟨f, found, rfl, rfl⟩, by simp⟩
  | cons stepped _ ih =>
    have quiet := not_follow_of_done found done stepped
    obtain ⟨f', found', runId, phase⟩ := keeps_of_step found stepped quiet
    obtain ⟨⟨f'', found'', runId', phase'⟩, later⟩ := ih found' (by rwa [Follower.isDone, phase])
    exact ⟨⟨f'', found'', runId'.trans runId, phase'.trans phase⟩, List.forall_mem_cons.mpr ⟨quiet, later⟩⟩

end Viewer

end Transcript
