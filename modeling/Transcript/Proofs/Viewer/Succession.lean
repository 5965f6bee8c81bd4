import Transcript.Proofs.Viewer.Path
import Transcript.Proofs.Viewer.Turn

/-! # One stream at a time

At most one follower was not cancelled, and it is the one of the stream that the viewer follows. A call
that has got beyond its first segment has stopped that stream. Every segment keeps this order, also one
that changes the conversation behind the back of the viewer (`Orderly`, `orderly_of_path`).

So nobody else touches the conversation while a call begins a run and waits for its stream: as long as
nobody changes it behind the back of the viewer, what has begun stays as it is (`Steady`,
`steady_of_path`).
-/

namespace Transcript.Viewer

/-- What holds of the followers of a viewer between any two segments. -/
structure Orderly (v : Viewer) : Prop where
  /-- A follower that was not cancelled is the one of the stream that is followed. -/
  alone : ∀ i f, v.followers[i]? = some f → f.cancelled = false → v.current = some i
  /-- The stream that is followed was started last. -/
  latest : ∀ i, v.current = some i → i + 1 = v.followers.length
  /-- A call goes on only once no stream is followed. -/
  stopped : ∀ call progress,
    v.serving = some (call, progress) → progress ≠ .entered → v.current = none

/-- What holds of a viewer between any two segments while only its own tasks touch the conversation. -/
structure Steady (settings : Settings) (v : Viewer) : Prop extends v.Orderly where
  settings_eq : v.conversation.settings = settings
  /-- While the stream of a run is waited for, its conversation stays as it has begun. -/
  begun : ∀ runId epoch, v.serving = some (.startRun runId, .starting epoch) →
    ∃ base : Conversation, base.settings = settings ∧
      v.conversation = (Conversation.beginRun runId base).1 ∧ epoch = v.conversation.epoch

theorem orderly_new (settings : Settings) : (new settings).Orderly where
  alone := by simp [new]
  latest := by simp [new]
  stopped := by simp [new]

theorem steady_new (settings : Settings) : (new settings).Steady settings :=
  { orderly_new settings with
    settings_eq := rfl
    begun := by simp [new] }

variable {settings : Settings} {v u : Viewer} {call : Call} {progress : Progress} {answer : Answer}
  {effects : Effects}

namespace Orderly

theorem finish (orderly : v.Orderly) : v.finish.Orderly :=
  { orderly with stopped := by simp [Viewer.finish] }

theorem beginNext (orderly : v.Orderly) : v.beginNext.Orderly := by
  unfold Viewer.beginNext
  split
  · exact { orderly with stopped := by simp }
  · exact orderly

/-- A follower may change in any way that does not undo its cancellation. -/
theorem modifyFollower (orderly : v.Orderly) (index : Nat) {g : Follower → Follower}
    (kept : ∀ f, (g f).cancelled = false → f.cancelled = false) :
    (v.modifyFollower index g).Orderly :=
  { orderly with
    alone := by
      intro i f found uncancelled
      obtain ⟨old, there, rfl⟩ := Option.map_eq_some_iff.mp
        ((List.getElem?_modify g index v.followers i).symm.trans found)
      apply orderly.alone i old there
      split at uncancelled
      · exact kept old uncancelled
      · exact uncancelled
    latest := by simpa [Viewer.modifyFollower] using orderly.latest }

theorem unfollow (orderly : v.Orderly) {index : Nat} (current : v.current = some index) :
    (v.unfollow index).Orderly where
  alone := by
    intro i f found uncancelled
    have before := (orderly.modifyFollower index fun _ => by simp).alone i f found uncancelled
    obtain rfl := Option.some.inj (current.symm.trans before)
    obtain ⟨old, -, rfl⟩ : ∃ old, v.followers[index]? = some old ∧
        { old with cancelled := true } = f := by
      simpa [Viewer.unfollow, Viewer.modifyFollower] using found
    contradiction
  latest := by simp [Viewer.unfollow]
  stopped := fun _ _ _ _ => rfl

theorem follow (orderly : v.Orderly) (none : v.current = none) (runId : String) (epoch : Nat)
    (stream : Stream) : (v.follow runId epoch stream).1.Orderly where
  alone := by
    intro i f found uncancelled
    change (v.followers ++ [_])[i]? = some f at found
    rcases Nat.lt_trichotomy i v.followers.length with earlier | rfl | beyond
    · rw [List.getElem?_append_left earlier] at found
      have current := orderly.alone i f found uncancelled
      rw [none] at current
      contradiction
    · rfl
    · simp [List.getElem?_eq_none (l := v.followers ++ [_]) (i := i) (by simp; omega)] at found
  latest := by
    intro i current
    obtain rfl := Option.some.inj current
    simp [Viewer.follow, Viewer.finish]
  stopped := by simp [Viewer.follow, Viewer.finish]

theorem serve (orderly : v.Orderly) (serving : v.serving = some (call, progress))
    (served : Served v call progress answer (u, effects)) : u.Orderly := by
  cases served with
  | proceeds stopped =>
    have none : v.current = none := by
      by_cases entered : progress = .entered
      · exact stopped entered
      · exact orderly.stopped call progress serving entered
    exact { orderly with stopped := fun _ _ _ _ => none }
  | ends => exact orderly.finish
  | stops current => exact { orderly.unfollow current with stopped := fun _ _ _ _ => rfl }
  | begins =>
    have none : v.current = none := orderly.stopped _ _ serving (by simp)
    exact { orderly with stopped := fun _ _ _ _ => none }
  | replaces =>
    exact { orderly with stopped := by simp [Viewer.finish] }
  | starts => exact orderly.follow (orderly.stopped call _ serving (by simp)) _ _ _

theorem followNext {index : Nat} {f : Follower} (orderly : v.Orderly)
    (followed : Followed v index f (u, effects)) : u.Orderly := by
  have moved (c : Conversation) : ({ v with conversation := c } : Viewer).Orderly := { orderly with }
  cases followed with
  | givesUp | exhausts | reads | breaks => exact orderly.modifyFollower index fun _ => id
  | delivers | settles => exact (moved _).modifyFollower index fun _ => id

theorem current_of_alive (orderly : v.Orderly) {index : Nat} {f : Follower}
    (found : v.followers[index]? = some f) (alive : f.isSuperseded v.conversation = false) :
    v.current = some index := by
  apply orderly.alone index f found
  simp only [Follower.isSuperseded, Bool.or_eq_false_iff] at alive
  exact alive.1

/-- While a stream is followed no call lets the conversation start again. -/
theorem clears_eq_false (orderly : v.Orderly) {index : Nat} (current : v.current = some index)
    (serving : v.serving = some (call, progress))
    (served : Served v call progress answer (u, effects)) : effects.clears = false := by
  have entered : progress = .entered := by
    by_contra beyond
    rw [orderly.stopped call progress serving beyond] at current
    contradiction
  subst entered
  cases served with
  | proceeds => rfl
  | ends silent | stops _ silent => rw [Effects.clears, silent, List.any_nil]
  | replaces _ stopped => contradiction

end Orderly

theorem orderly_step {segment : Segment} (orderly : v.Orderly)
    (stepped : v.step segment = some (u, effects)) : u.Orderly := by
  cases segment with
  | call call =>
    cases stepped
    exact Orderly.beginNext { orderly with }
  | serve answer =>
    obtain ⟨call, progress, w, serving, served, rfl⟩ := served_of_step stepped
    exact (orderly.serve serving served).beginNext
  | follow index =>
    obtain ⟨f, -, followed⟩ := followed_of_step stepped
    exact orderly.followNext followed
  | arrive index arrival =>
    obtain ⟨f, -, -, -, rfl⟩ := arrived_of_step stepped
    exact orderly.modifyFollower index fun _ => id
  | complete index =>
    cases stepped
    exact orderly.modifyFollower index fun _ => id
  | cancel index =>
    cases stepped
    exact orderly.modifyFollower index fun _ => by simp
  | write update =>
    cases stepped
    exact { orderly with }

theorem orderly_of_path {moments : List Moment} (orderly : v.Orderly) (path : v.Path moments u) :
    u.Orderly := by
  induction path with
  | nil => exact orderly
  | cons stepped _ ih => exact ih (orderly_step orderly stepped)

theorem follower_of_path {moments : List Moment} {n : Nat} {f : Follower} (path : v.Path moments u)
    (found : v.followers[n]? = some f) : ∃ g, u.followers[n]? = some g ∧ f.Continues g := by
  induction path generalizing f with
  | nil => exact ⟨f, found, .refl f⟩
  | cons stepped _ ih =>
    obtain ⟨g, next, continues, -⟩ := follower_of_step found stepped
    obtain ⟨h, last, later⟩ := ih next
    exact ⟨h, last, continues.trans later⟩

/-- As long as a follower is not cancelled no call lets the conversation start again. -/
theorem clears_eq_false_of_uncancelled {moments : List Moment} {n : Nat} {f g : Follower}
    (orderly : v.Orderly) (path : v.Path moments u) (there : v.followers[n]? = some g)
    (found : u.followers[n]? = some f) (uncancelled : f.cancelled = false) :
    ∀ m ∈ moments, ∀ answer, m.segment = .serve answer → m.effects.clears = false := by
  induction path generalizing g with
  | nil => simp
  | @cons v _ _ segment effects rest stepped path ih =>
    obtain ⟨last, same, continues⟩ := follower_of_path (.cons stepped path) there
    obtain rfl := Option.some.inj (found.symm.trans same)
    have current : v.current = some n := by
      apply orderly.alone n g there
      by_contra cancelled
      rw [continues.cancelled (Bool.not_eq_false _ ▸ cancelled)] at uncancelled
      contradiction
    obtain ⟨next, thereNext, -⟩ := follower_of_step there stepped
    refine List.forall_mem_cons.mpr ⟨?_, ih (orderly_step orderly stepped) thereNext found⟩
    rintro answer rfl
    obtain ⟨call, progress, w, serving, served, -⟩ := served_of_step stepped
    exact orderly.clears_eq_false current serving served

namespace Steady

theorem finish (steady : v.Steady settings) : v.finish.Steady settings :=
  { steady.toOrderly.finish with
    settings_eq := steady.settings_eq
    begun := by simp [Viewer.finish] }

theorem beginNext (steady : v.Steady settings) : v.beginNext.Steady settings := by
  unfold Viewer.beginNext
  split
  · exact { steady with
      stopped := by simp
      begun := by simp }
  · exact steady

/-- A follower may change in any way that does not undo its cancellation. -/
theorem modifyFollower (steady : v.Steady settings) (index : Nat) {g : Follower → Follower}
    (kept : ∀ f, (g f).cancelled = false → f.cancelled = false) :
    (v.modifyFollower index g).Steady settings :=
  { steady.toOrderly.modifyFollower index kept with
    settings_eq := steady.settings_eq
    begun := steady.begun }

/-- While a stream is followed no call waits for another one, so its inputs disturb nothing. -/
theorem takes (steady : v.Steady settings) {index : Nat} (current : v.current = some index)
    (input : Conversation.Input) :
    ({ v with conversation := (input.update v.conversation).1 } : Viewer).Steady settings :=
  { steady with
    settings_eq := (Conversation.settings_input input v.conversation).trans steady.settings_eq
    begun := by
      intro runId epoch serving
      have none : v.current = none := steady.stopped _ _ serving (by simp)
      rw [current] at none
      contradiction }

theorem serve (steady : v.Steady settings) (serving : v.serving = some (call, progress))
    (served : Served v call progress answer (u, effects)) : u.Steady settings := by
  have orderly : u.Orderly := steady.toOrderly.serve serving served
  cases served with
  | proceeds _ waits _ =>
    exact { orderly with
      settings_eq := steady.settings_eq
      begun := by
        intro runId epoch starting
        exact absurd (Prod.mk.inj (Option.some.inj starting)).2 (waits epoch) }
  | ends => exact steady.finish
  | stops =>
    exact { orderly with
      settings_eq := steady.settings_eq
      begun := by simp [Viewer.proceed] }
  | begins starts fresh =>
    subst starts fresh
    exact { orderly with
      settings_eq := steady.settings_eq
      begun := by
        intro runId epoch starting
        cases starting
        exact ⟨v.conversation, steady.settings_eq, rfl, rfl⟩ }
  | replaces kept =>
    exact { orderly with
      settings_eq := kept.trans steady.settings_eq
      begun := by simp [Viewer.finish] }
  | starts =>
    exact { orderly with
      settings_eq := steady.settings_eq
      begun := by simp [Viewer.finish] }

theorem followNext {index : Nat} {f : Follower} (steady : v.Steady settings)
    (found : v.followers[index]? = some f) (followed : Followed v index f (u, effects)) :
    u.Steady settings := by
  cases followed with
  | givesUp | exhausts | reads | breaks => exact steady.modifyFollower index fun _ => id
  | @delivers frame _ _ _ alive =>
    exact (steady.takes (steady.current_of_alive found alive) (.frame frame)).modifyFollower index
      fun _ => id
  | settles _ alive =>
    exact (steady.takes (steady.current_of_alive found alive) .ended).modifyFollower index
      fun _ => id

end Steady

theorem steady_step {segment : Segment} (steady : v.Steady settings)
    (alone : segment.isWrite = false) (stepped : v.step segment = some (u, effects)) :
    u.Steady settings := by
  cases segment with
  | call call =>
    cases stepped
    exact Steady.beginNext { steady with }
  | serve answer =>
    obtain ⟨call, progress, w, serving, served, rfl⟩ := served_of_step stepped
    exact (steady.serve serving served).beginNext
  | follow index =>
    obtain ⟨f, found, followed⟩ := followed_of_step stepped
    exact steady.followNext found followed
  | arrive index arrival =>
    obtain ⟨f, -, -, -, rfl⟩ := arrived_of_step stepped
    exact steady.modifyFollower index fun _ => id
  | complete index =>
    cases stepped
    exact steady.modifyFollower index fun _ => id
  | cancel index =>
    cases stepped
    exact steady.modifyFollower index fun _ => by simp
  | write update => contradiction

theorem steady_of_path {moments : List Moment} (steady : v.Steady settings)
    (path : v.Path moments u) (alone : ∀ m ∈ moments, m.segment.isWrite = false) :
    u.Steady settings := by
  induction path with
  | nil => exact steady
  | cons stepped _ ih =>
    obtain ⟨first, later⟩ := List.forall_mem_cons.mp alone
    exact ih (steady_step steady first stepped) later

end Transcript.Viewer
