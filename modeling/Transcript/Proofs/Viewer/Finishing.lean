import Transcript.Proofs.Viewer.Path
import Transcript.Proofs.Viewer.Reading
import Mathlib.Data.List.Basic

/-! # A follower that has its turns comes to an end

A follower of a complete stream never has to wait. Each of its turns is possible and leaves fewer of them
(`step_of_free`), so its turns alone bring it to its end, and the conversation is told all that is left to
tell (`exists_path_of_free`).
-/

namespace Transcript

open Conversation (Input feed)

namespace Follower

/-- The frames that have arrived on the stream of a follower and were not read yet. -/
def unread (f : Follower) : List Frame := f.stream.queue.filterMap Arrival.frame?

/-- What a follower of a complete stream has still to tell the conversation. -/
def untold (f : Follower) : List Input :=
  match f.phase with
  | .receiving => report f.unread
  | .delivering frame => report (frame :: f.unread)
  | .ending => [.ended]
  | .closed | .crashed => []

/-- How many turns a follower of a complete stream has left at most. -/
def turnsLeft (f : Follower) : Nat :=
  match f.phase with
  | .receiving => 2 * f.stream.queue.length + 2
  | .delivering _ => 2 * f.stream.queue.length + 3
  | .ending => 1
  | .closed | .crashed => 0

theorem turnsLeft_le (f : Follower) : f.turnsLeft ≤ 2 * f.stream.queue.length + 3 := by
  unfold turnsLeft
  split <;> omega

/-- Whether nothing keeps a follower from reading to the end of its stream into a conversation of this
epoch. -/
structure Free (f : Follower) (epoch : Nat) : Prop where
  uncancelled : f.cancelled = false
  epoch_eq : f.epoch = epoch
  complete : f.stream.isOpen = false
  unbroken : .crash ∉ f.stream.queue
  uncrashed : f.phase ≠ .crashed

theorem Free.isSuperseded {f : Follower} {c : Conversation} (free : f.Free c.epoch) :
    f.isSuperseded c = false := by
  simp [Follower.isSuperseded, free.uncancelled, free.epoch_eq]

/-- A follower that is free is so in any other phase and with any part of its queue. -/
theorem Free.moveOn {f : Follower} {epoch : Nat} (free : f.Free epoch) {phase : Phase}
    {queue : List Arrival} (sub : queue ⊆ f.stream.queue) (uncrashed : phase ≠ .crashed) :
    { f with phase, stream := { f.stream with queue } }.Free epoch where
  uncancelled := free.uncancelled
  epoch_eq := free.epoch_eq
  complete := free.complete
  unbroken := fun broken => free.unbroken (sub broken)
  uncrashed := uncrashed

/-- Nothing that the conversation is told keeps a follower from reading on. -/
theorem Free.update {f : Follower} {c : Conversation} (free : f.Free c.epoch) (input : Input) :
    f.Free (input.update c).1.epoch :=
  (Conversation.epoch_input input c).symm ▸ free

theorem Free.closed {f : Follower} {epoch : Nat} (free : f.Free epoch) (done : f.isDone = true) :
    f.phase = .closed := by
  simp only [isDone, Bool.or_eq_true, decide_eq_true_eq] at done
  exact done.resolve_right free.uncrashed

end Follower

namespace Viewer

/-- The viewer when a follower has got further, and the conversation with it. -/
def moved (v : Viewer) (index : Nat) (f : Follower) (c : Conversation) : Viewer :=
  { v with conversation := c, followers := v.followers.set index f }

variable {v : Viewer} {index : Nat} {f : Follower}

theorem moved_moved (f g : Follower) (c c' : Conversation) :
    (v.moved index f c).moved index g c' = v.moved index g c' := by
  simp only [moved, List.set_set]

theorem moved_self (found : v.followers[index]? = some f) : v.moved index f v.conversation = v := by
  obtain ⟨bound, rfl⟩ := List.getElem?_eq_some_iff.mp found
  simp only [moved, List.set_getElem_self]

theorem followers_moved (found : v.followers[index]? = some f) (g : Follower) (c : Conversation) :
    (v.moved index g c).followers[index]? = some g := by
  obtain ⟨bound, -⟩ := List.getElem?_eq_some_iff.mp found
  exact List.getElem?_set_self bound

theorem modifyFollower_eq (found : v.followers[index]? = some f) (g : Follower → Follower)
    (c : Conversation) :
    ({ v with conversation := c } : Viewer).modifyFollower index g = v.moved index (g f) c := by
  simp only [modifyFollower, List.modify_eq_set_getElem?, found]
  rfl

/-- In its turn a follower gets to another place, and the conversation with it. -/
theorem step_follow {g : Follower → Follower} {c : Conversation} {effects : Effects}
    (found : v.followers[index]? = some f)
    (next : v.followNext index f =
      some (({ v with conversation := c } : Viewer).modifyFollower index g, effects)) :
    v.step (.follow index) = some (v.moved index (g f) c, effects) := by
  simp only [step, found, next, modifyFollower_eq found]

/-- A follower that is free and not done has its turn whenever it likes. It has fewer turns left then, and
what it has no longer to tell it has told. -/
theorem step_of_free (found : v.followers[index]? = some f) (free : f.Free v.conversation.epoch)
    (running : f.isDone = false) :
    ∃ g c effects, v.step (.follow index) = some (v.moved index g c, effects) ∧ g.Free c.epoch ∧
      g.turnsLeft < f.turnsLeft ∧ (feed g.untold c).1 = (feed f.untold v.conversation).1 := by
  cases phase : f.phase with
  | receiving =>
    cases queue : f.stream.queue with
    | nil =>
      have next : v.followNext index f =
          some (v.modifyFollower index fun f => { f with phase := .ending }, {}) := by
        simp [followNext, phase, free.uncancelled, queue, free.complete]
      refine ⟨_, _, _, step_follow found next, free.moveOn (List.Subset.refl _) (by simp), ?_, ?_⟩
      · simp [Follower.turnsLeft, phase, queue]
      · simp only [Follower.untold, phase, Follower.unread, queue]
        rfl
    | cons arrival rest =>
      obtain ⟨frame, readable⟩ : ∃ frame, arrival.frame? = some frame := by
        rw [← Option.ne_none_iff_exists']
        intro broken
        exact free.unbroken (by simp [queue, Arrival.eq_crash_of_frame? broken])
      have next : v.followNext index f = some (v.modifyFollower index fun f =>
          { f with phase := .delivering frame, stream := { f.stream with queue := rest } }, {}) := by
        cases arrival with
        | crash => contradiction
        | frame unit | failure error =>
          cases readable
          simp [followNext, phase, free.uncancelled, queue]
      refine ⟨_, _, _, step_follow found next, free.moveOn (by simp [queue]) (by simp), ?_, ?_⟩
      · simp [Follower.turnsLeft, phase, queue]
        omega
      · simp only [Follower.untold, phase, Follower.unread, queue, List.filterMap_cons, readable]
  | delivering frame =>
    have next : ∃ effects, v.followNext index f =
        some (({ v with conversation := (Conversation.ingest frame v.conversation).1 } :
          Viewer).modifyFollower index fun f =>
            { f with phase := if frame.isFailure then .closed else .receiving }, effects) := by
      simp only [followNext, phase, free.isSuperseded, Bool.false_eq_true, if_false]
      cases frame.isFailure <;> exact ⟨_, rfl⟩
    obtain ⟨effects, next⟩ := next
    refine ⟨_, _, _, step_follow found next,
      (free.moveOn (List.Subset.refl _) (by split <;> simp)).update (.frame frame), ?_, ?_⟩
    · cases failure : frame.isFailure <;> simp [Follower.turnsLeft, phase]
    · cases failure : frame.isFailure with
      | true =>
        have last : f.untold = [.frame frame] := by
          rw [Follower.untold, phase]
          exact Follower.report_cons_of_failure failure _
        rw [last]
        rfl
      | false =>
        have first : f.untold = .frame frame :: Follower.report f.unread := by
          rw [Follower.untold, phase]
          exact Follower.report_cons_of_whole failure _
        rw [first]
        rfl
  | ending =>
    have next : ∃ effects, v.followNext index f =
        some (({ v with conversation := (Conversation.endStream v.conversation).1 } :
          Viewer).modifyFollower index fun f => { f with phase := .closed }, effects) := by
      simp only [followNext, phase, free.isSuperseded, Bool.false_eq_true, if_false]
      exact ⟨_, rfl⟩
    obtain ⟨effects, next⟩ := next
    refine ⟨_, _, _, step_follow found next,
      (free.moveOn (List.Subset.refl _) (by simp)).update .ended, ?_, ?_⟩
    · simp [Follower.turnsLeft, phase]
    · rw [Follower.untold, Follower.untold, phase]
      rfl
  | closed | crashed => simp [Follower.isDone, phase] at running

/-- The turns of a follower that is free bring it to its end and tell all that it has still to tell. -/
theorem exists_path_of_free (found : v.followers[index]? = some f)
    (free : f.Free v.conversation.epoch) :
    ∃ moments g, v.Path moments (v.moved index g (feed f.untold v.conversation).1) ∧
      (∀ m ∈ moments, m.segment = .follow index) ∧ moments.length ≤ f.turnsLeft ∧
      g.phase = .closed ∧ g.cancelled = false := by
  generalize left : f.turnsLeft = turns
  induction turns using Nat.strongRecOn generalizing v f with
  | ind turns ih =>
    cases running : f.isDone with
    | true =>
      have closed : f.phase = .closed := free.closed running
      have told : (feed f.untold v.conversation).1 = v.conversation := by
        rw [Follower.untold, closed]
        rfl
      refine ⟨[], f, ?_, by simp, Nat.zero_le _, closed, free.uncancelled⟩
      rw [told, moved_self found]
      exact .nil v
    | false =>
      obtain ⟨g, c, effects, stepped, freeNext, fewer, same⟩ := step_of_free found free running
      obtain ⟨moments, last, path, own, few, closed, uncancelled⟩ :=
        ih g.turnsLeft (left ▸ fewer) (followers_moved found g c) freeNext rfl
      have later : (v.moved index g c).moved index last (feed g.untold c).1 =
          v.moved index last (feed f.untold v.conversation).1 := by
        rw [moved_moved, same]
      refine ⟨_, last, .cons stepped (later ▸ path), ?_, ?_, closed, uncancelled⟩
      · exact List.forall_mem_cons.mpr ⟨rfl, own⟩
      · rw [List.length_cons]
        omega

end Viewer

end Transcript
