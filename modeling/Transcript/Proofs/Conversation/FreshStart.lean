import Transcript.Conversation.Snapshot
import Transcript.Proofs.Conversation.Log
import Transcript.Proofs.Conversation.Unread

/-! # A restart forgets what was before

The epoch is all that a conversation knows of the time before its last restart. No input looks at it
(`Timeless`), and a restart takes nothing but the settings over and counts the epoch on. So two
conversations with the same settings are alike from a common restart on, whatever had happened to
either of them, and tell their observers the same (`alike_after_restart`).
-/

namespace Transcript.Conversation

def withEpoch (c : Conversation) (epoch : Nat) : Conversation := { c with epoch }

/-- Whether an update does and tells the same under every epoch and leaves the epoch as it is. -/
def Timeless (update : Update) : Prop :=
  ∀ c epoch, update (c.withEpoch epoch) = ((update c).1.withEpoch epoch, (update c).2)

theorem timeless_input (input : Input) : Timeless input.update := by
  intro c epoch
  have unaware : Unaware (elsewhere id fun _ => epoch) input.update := .input (fun _ => rfl) input
  exact unaware c

/-! ## The epoch counts restarts -/

def Operation.isRestart : Operation → Bool
  | .input _ => false
  | .restart _ => true

theorem epoch_update (operation : Operation) (c : Conversation) :
    (operation.update c).1.epoch = c.epoch + if operation.isRestart then 1 else 0 := by
  cases operation with
  | input x => exact epoch_input x c
  | restart again =>
    cases again with
    | reset => rfl
    | beginRun runId => rfl
    | load stored =>
      change (load stored c).1.epoch = c.epoch + 1
      rw [load_fst]
      rfl

theorem epoch_run (operations : List Operation) (c : Conversation) :
    (run operations c).1.epoch = c.epoch + operations.countP Operation.isRestart := by
  induction operations generalizing c with
  | nil => rfl
  | cons operation rest ih =>
    change (run rest (operation.update c).1).1.epoch = _
    rw [ih, epoch_update, List.countP_cons]
    omega

/-! ## Conversations that differ in their epoch alone -/

/-- Whether two conversations differ in nothing but the epoch. -/
def Alike (c other : Conversation) : Prop := c = other.withEpoch c.epoch

/-- Whether two conversations give the same answer to every question. -/
structure AnswersAs (c other : Conversation) : Prop where
  runId : c.runId = other.runId
  status : c.status = other.status
  tokens : c.tokens = other.tokens
  messages : c.messages = other.messages
  visible : c.visible = other.visible
  streaming : c.streaming = other.streaming
  pendingText : ∀ source, c.pendingText source = other.pendingText source
  recordsFor : ∀ source seq, c.recordsFor source seq = other.recordsFor source seq
  unresolvedCalls : c.unresolvedCalls = other.unresolvedCalls
  snapshot : c.snapshot = other.snapshot

/-- A restart takes nothing over but the settings. -/
theorem restart_eq {c other : Conversation} (same : c.settings = other.settings)
    (again : Restart) :
    Alike (again.update c).1 (again.update other).1 ∧
      (again.update c).2 = (again.update other).2 := by
  have cleared : c.cleared = other.cleared.withEpoch (c.epoch + 1) := by
    simp only [Conversation.cleared, same]
    rfl
  cases again with
  | reset => exact ⟨cleared, rfl⟩
  | beginRun runId =>
    refine ⟨?_, rfl⟩
    change { c.cleared with runId := some runId } = _
    rw [cleared]
    rfl
  | load stored =>
    refine ⟨?_, rfl⟩
    change Alike (load stored c).1 (load stored other).1
    rw [load_fst, load_fst, cleared]
    rfl

namespace Alike

variable {c other : Conversation}

/-- Conversations that are alike stay so under every operation, and tell the same. -/
theorem update (alike : Alike c other) (operation : Operation) :
    Alike (operation.update c).1 (operation.update other).1 ∧
      (operation.update c).2 = (operation.update other).2 := by
  cases operation with
  | input x =>
    have done := timeless_input x other c.epoch
    rw [← alike] at done
    change Alike (x.update c).1 (x.update other).1 ∧ (x.update c).2 = (x.update other).2
    rw [done]
    exact ⟨rfl, rfl⟩
  | restart again =>
    have same : c.settings = other.settings := by rw [alike]; rfl
    exact restart_eq same again

theorem run (alike : Alike c other) (operations : List Operation) :
    Alike (run operations c).1 (run operations other).1 ∧
      (Conversation.run operations c).2 = (Conversation.run operations other).2 := by
  induction operations generalizing c other with
  | nil => exact ⟨alike, rfl⟩
  | cons operation rest ih =>
    obtain ⟨next, told⟩ := alike.update operation
    obtain ⟨last, toldLater⟩ := ih next
    exact ⟨last, congrArg₂ (· ++ ·) told toldLater⟩

/-- The epoch answers no question. -/
theorem answersAs (alike : Alike c other) : c.AnswersAs other := by
  rw [alike]
  constructor <;> intros <;> rfl

end Alike

/-- From a restart on, everything is as after every other history with the same settings: what the
operations tell and what the conversation answers. The epochs stay as far apart as they were before
the restart, and they grow with every restart and with nothing else. -/
theorem alike_after_restart (settings : Settings) (history other : List Operation)
    (again : Restart) (later : List Operation) :
    let before := (run history (new settings)).1
    let before' := (run other (new settings)).1
    let after := (run (.restart again :: later) before).1
    let after' := (run (.restart again :: later) before').1
    (run (.restart again :: later) before).2 = (run (.restart again :: later) before').2 ∧
      after.AnswersAs after' ∧ after = { after' with epoch := after.epoch } ∧
      (after.epoch : Int) - after'.epoch = before.epoch - before'.epoch ∧
      ∀ (c : Conversation) (operation : Operation),
        (operation.isRestart = true → c.epoch < (operation.update c).1.epoch) ∧
        (operation.isRestart = false → (operation.update c).1.epoch = c.epoch) := by
  intro before before' after after'
  have same : before.settings = before'.settings :=
    (settings_run history (new settings)).trans (settings_run other (new settings)).symm
  obtain ⟨started, told⟩ := restart_eq same again
  obtain ⟨alike, toldLater⟩ := started.run later
  refine ⟨congrArg₂ (· ++ ·) told toldLater, alike.answersAs, alike, ?_, ?_⟩
  · have epoch : after.epoch = before.epoch + _ := epoch_run (.restart again :: later) before
    have epoch' : after'.epoch = before'.epoch + _ := epoch_run (.restart again :: later) before'
    omega
  · intro c operation
    have moved := epoch_update operation c
    constructor
    · intro restarts
      rw [restarts, if_pos rfl] at moved
      omega
    · intro goesOn
      rwa [goesOn, if_neg Bool.false_ne_true] at moved

end Transcript.Conversation
