import Transcript.Proofs.Conversation.Operation

/-! # What no input reads

A conversation carries some things for others: the epoch for whoever holds on to an earlier state of it,
and the settings, of which only the default source has a say in what becomes of a frame. Where those are
other ones, an input makes the same of everything else and tells the same (`Unaware.input`).
-/

namespace Transcript.Conversation

/-- Whether it makes no difference for an update, and for what it tells, if conversations are changed
before it or after it. -/
def Unaware (change : Conversation → Conversation) (update : Update) : Prop :=
  ∀ c, update (change c) = (change (update c).1, (update c).2)

/-- The conversation with other settings and another epoch. -/
def elsewhere (settings : Settings → Settings) (epoch : Nat → Nat) (c : Conversation) : Conversation :=
  { c with settings := settings c.settings, epoch := epoch c.epoch }

namespace Unaware

section

variable {change : Conversation → Conversation}

theorem andThen {first second : Update} (one : Unaware change first) (two : Unaware change second) :
    Unaware change (first.andThen second) := by
  intro c
  simp only [Update.andThen, one c, two (first c).1]

theorem all {updates : List Update} (each : ∀ update ∈ updates, Unaware change update) :
    Unaware change (Update.all updates) := by
  induction updates with
  | nil => exact fun _ => rfl
  | cons update rest ih =>
    obtain ⟨first, later⟩ := List.forall_mem_cons.mp each
    exact first.andThen (ih later)

/-- Growing texts are flushed alike if they are untouched and their messages are put at the end alike. -/
theorem flush_of_append (untouched : ∀ c, (change c).streaming = c.streaming)
    (emptied : ∀ c : Conversation, { change c with streaming := ∅ } = change { c with streaming := ∅ })
    (texts : ∀ source text, Unaware change (Conversation.append (.text source text))) :
    Unaware change flush := by
  intro c
  have each : Unaware change (Update.all (c.streaming.toList.map fun buffer =>
      Conversation.append (.text buffer.1 buffer.2))) := by
    apply all
    intro update member
    obtain ⟨buffer, -, rfl⟩ := List.mem_map.mp member
    exact texts buffer.1 buffer.2
  rw [flush, untouched, emptied]
  exact each { c with streaming := ∅ }

end

variable {settings : Settings → Settings} {epoch : Nat → Nat}

theorem append (m : Message) : Unaware (elsewhere settings epoch) (append m) := fun _ => rfl

theorem flush : Unaware (elsewhere settings epoch) flush :=
  flush_of_append (fun _ => rfl) (fun _ => rfl) fun _ _ => append _

theorem countTokens (usage : Option Usage) :
    Unaware (elsewhere settings epoch) (countTokens usage) := by
  intro c
  cases usage <;> rfl

theorem moveStatus (status : Status) : Unaware (elsewhere settings epoch) (moveStatus status) :=
  fun _ => rfl

theorem apply (e : Event) : Unaware (elsewhere settings epoch) (apply e) := by
  intro c
  cases e with
  | text source id content usage awaits =>
    let text := (c.streaming.pending source).getD content
    exact (countTokens usage).andThen (append ⟨id, source, .text text, usage⟩)
      { c with streaming := (c.streaming.take source).2 }
  | taskSummary source id summary awaits => exact flush.andThen (append _) c
  | error source message => exact flush.andThen (append _) c
  | _ => rfl

theorem dispatch (e : Event) : Unaware (elsewhere settings epoch) (dispatch e) := by
  intro c
  have same : (c.elsewhere settings epoch).isDuplicate e = c.isDuplicate e := rfl
  unfold Conversation.dispatch
  rw [same]
  split
  · rfl
  · exact (apply e).andThen (moveStatus (c.status.after e)) c

/-- The default source is all that an input has to find again. -/
theorem input (kept : ∀ s, (settings s).defaultSource = s.defaultSource) (input : Input) :
    Unaware (elsewhere settings epoch) input.update := by
  intro c
  cases input with
  | frame unit =>
    have source : (c.elsewhere settings epoch).settings.defaultSource = c.settings.defaultSource :=
      kept c.settings
    change Conversation.dispatch (.ofFrame _ unit) (c.elsewhere settings epoch) = _
    rw [source]
    exact dispatch (.ofFrame c.settings.defaultSource unit) c
  | ended => exact flush.andThen (moveStatus c.status.settled) c

end Unaware

end Transcript.Conversation
