import Transcript.Proofs.Conversation.Unread
import Transcript.Proofs.Stream.Fields
import Mathlib.Data.List.Forall2

/-! # Fields that nobody reads

An unknown payload is kept in the log as it is and never looked at (`dispatch_veiled`). So conversations
that are the same but for such payloads stay so, and tell the same, while they take inputs that agree on
the fields that are read (`alikeVeiled_feed`). One envelope with other fields beside those makes the very
same of a conversation, unless it is an unknown payload itself (`handled_alike`).
-/

namespace Transcript

/-- The message without what is unknown of it. -/
def Message.veiled (m : Message) : Message :=
  match m.content with
  | .other _ => { m with content := .other .null }
  | _ => m

theorem Message.id_veiled (m : Message) : m.veiled.id = m.id := by
  obtain ⟨id, source, content, usage⟩ := m
  cases content <;> rfl

/-- The event without what is unknown of it. -/
def Event.veiled : Event → Event
  | .other source _ => .other source .null
  | e => e

theorem Event.veiled_ofFrame_of_agree {fields others : List (String × Json)}
    (agree : Json.AgreeOn Envelope.fieldNames fields others) (defaultSource : String) :
    (Event.ofFrame defaultSource (.envelope (.obj fields))).veiled =
      (Event.ofFrame defaultSource (.envelope (.obj others))).veiled := by
  obtain ⟨-, same⟩ | ⟨source, one, two⟩ := Event.ofValue_of_agree agree defaultSource
  · exact (congrArg Event.veiled same).symm
  · simp only [Event.ofFrame, one, two, Event.veiled]

namespace Conversation

/-- The conversation without what is unknown of its messages. -/
def veiled (c : Conversation) : Conversation :=
  { c with messages := c.messages.map Message.veiled }

/-! ## Taking an event -/

theorem size_veiled (c : Conversation) : c.veiled.messages.size = c.messages.size := Array.size_map

theorem push_veiled (c : Conversation) (m : Message) :
    c.veiled.push m.veiled = (c.push m).veiled := by
  simp only [push, veiled, Array.map_push, m.id_veiled]

theorem push_of_veiled {m : Message} (known : m.veiled = m) (c : Conversation) :
    c.veiled.push m = (c.push m).veiled := by
  rw [← push_veiled, known]

theorem append_veiled (m : Message) (c : Conversation) :
    append m.veiled c.veiled = ((append m c).1.veiled, (append m c).2) := by
  rw [append, append, push_veiled, size_veiled]

namespace Unaware

theorem append_of_veiled {m : Message} (known : m.veiled = m) :
    Unaware veiled (Conversation.append m) := by
  intro c
  rw [← append_veiled, known]

theorem flush_veiled : Unaware veiled Conversation.flush :=
  flush_of_append (fun _ => rfl) (fun _ => rfl) fun _ _ => append_of_veiled rfl

theorem countTokens_veiled (usage : Option Usage) :
    Unaware veiled (Conversation.countTokens usage) := by
  intro c
  cases usage <;> rfl

theorem endStream_veiled : Unaware veiled Conversation.endStream := by
  intro c
  have moves : Unaware veiled (Conversation.moveStatus c.status.settled) := fun _ => rfl
  exact flush_veiled.andThen moves c

end Unaware

open Unaware in
/-- What an event does never depends on the unknown payloads of the log. -/
theorem apply_veiled (e : Event) (c : Conversation) :
    apply e.veiled c.veiled = ((apply e c).1.veiled, (apply e c).2) := by
  cases e with
  | delta source piece => rfl
  | text source id content usage awaits =>
    -- the growing text that this one finishes is beside the log
    let text := (c.streaming.pending source).getD content
    have final : Unaware veiled (Conversation.append ⟨id, source, .text text, usage⟩) :=
      append_of_veiled rfl
    exact (countTokens_veiled usage).andThen final
      { c with streaming := (c.streaming.take source).2 }
  | toolCalls source id calls usage awaits =>
    -- the request gets the number of messages, which is the same
    have pushed : c.veiled.push ⟨id, source, .toolCalls calls, usage⟩ =
        (c.push ⟨id, source, .toolCalls calls, usage⟩).veiled := push_of_veiled rfl c
    simp only [Event.veiled, apply, append, size_veiled, pushed]
    rfl
  | toolResults source id results awaits =>
    let resolved := (c.resolveResults source results).1
    have pushed : resolved.veiled.push ⟨id, source, .toolResults results, none⟩ =
        (resolved.push ⟨id, source, .toolResults results, none⟩).veiled := push_of_veiled rfl resolved
    have resolves : c.veiled.resolveResults source results =
        (resolved.veiled, (c.resolveResults source results).2) := rfl
    simp only [Event.veiled, apply, append, resolves, size_veiled, pushed]
    rfl
  | taskSummary source id summary awaits => exact flush_veiled.andThen (append_of_veiled rfl) c
  | error source message => exact flush_veiled.andThen (append_of_veiled rfl) c
  | modelTrace source id trace => exact append_of_veiled rfl c
  | memories source id entries => exact append_of_veiled rfl c
  | other source payload => exact append_veiled (.plain source (.other payload)) c

/-- What becomes of an event never depends on the unknown payloads of the log, nor on its own. -/
theorem dispatch_veiled (e : Event) (c : Conversation) :
    dispatch e.veiled c.veiled = ((dispatch e c).1.veiled, (dispatch e c).2) := by
  have duplicate : c.veiled.isDuplicate e.veiled = c.isDuplicate e := by cases e <;> rfl
  have status (s : Status) : s.after e.veiled = s.after e := by cases s <;> cases e <;> rfl
  simp only [dispatch, duplicate]
  split
  · rfl
  · simp only [Update.andThen, apply_veiled, status]
    rfl

/-! ## Taking inputs that agree -/

/-- Inputs are the same, or envelopes that agree on the fields that are read. -/
inductive Input.Agree : Input → Input → Prop
  | refl (input : Input) : Agree input input
  | envelope {fields others : List (String × Json)}
      (agree : Json.AgreeOn Envelope.fieldNames fields others) :
      Agree (.frame (.envelope (.obj fields))) (.frame (.envelope (.obj others)))

/-- Two outcomes of updates that are the same but for unknown payloads. -/
def AlikeVeiled (one two : Conversation × List Change) : Prop :=
  one.2 = two.2 ∧ one.1.veiled = two.1.veiled

theorem AlikeVeiled.of_eq {one two : Conversation × List Change}
    (same : (one.1.veiled, one.2) = (two.1.veiled, two.2)) : AlikeVeiled one two :=
  (Prod.mk.inj same).symm

section

variable {c d : Conversation}

theorem alikeVeiled_dispatch {e e' : Event} (means : e.veiled = e'.veiled) (alike : c.veiled = d.veiled) :
    AlikeVeiled (dispatch e c) (dispatch e' d) := by
  apply AlikeVeiled.of_eq
  rw [← dispatch_veiled, ← dispatch_veiled, means, alike]

theorem Input.Agree.alikeVeiled_update {input other : Input} (agree : Agree input other)
    (alike : c.veiled = d.veiled) : AlikeVeiled (input.update c) (other.update d) := by
  have settings : c.settings = d.settings := congrArg (fun c => c.settings) alike
  cases agree with
  | refl =>
    cases input with
    | frame unit =>
      change AlikeVeiled (dispatch _ c) (dispatch _ d)
      rw [settings]
      exact alikeVeiled_dispatch rfl alike
    | ended =>
      change AlikeVeiled (endStream c) (endStream d)
      apply AlikeVeiled.of_eq
      rw [← Unaware.endStream_veiled, ← Unaware.endStream_veiled, alike]
  | envelope agree =>
    change AlikeVeiled (dispatch _ c) (dispatch _ d)
    rw [settings]
    exact alikeVeiled_dispatch (Event.veiled_ofFrame_of_agree agree _) alike

/-- Conversations that are the same but for unknown payloads stay so, and tell the same, while they
take inputs that agree. -/
theorem alikeVeiled_feed {inputs others : List Input} (agree : List.Forall₂ Input.Agree inputs others)
    (alike : c.veiled = d.veiled) : AlikeVeiled (feed inputs c) (feed others d) := by
  induction agree generalizing c d with
  | nil => exact ⟨rfl, alike⟩
  | cons here later ih =>
    obtain ⟨told, veiled⟩ := here.alikeVeiled_update alike
    obtain ⟨toldLater, veiledLater⟩ := ih veiled
    exact ⟨congrArg₂ (· ++ ·) told toldLater, veiledLater⟩

end

/-- An unknown payload is put at the end of the log, and nothing else happens. -/
theorem dispatch_other (source : String) (payload : Json) (c : Conversation) :
    dispatch (.other source payload) c =
      (c.push (.plain source (.other payload)), [.appended c.messages.size]) := by
  have stays : c.status.after (.other source payload) = c.status := by cases c.status <;> rfl
  have unmoved : c.status.change? c.status = none := if_pos rfl
  simp only [dispatch, isDuplicate, Event.messageId, Bool.false_eq_true, if_false, Update.andThen,
    apply, append, moveStatus, push, stays, unmoved, List.append_nil]

/-- Fields beside those that are read make no difference. Objects that agree on the ten fields are the
same event, unless each of them is passed on as it is; and if they name a source they are so under every
default source. To take one is to take the other: the same changes are made known, the conversation is
the same but for a payload that is passed on, and so is everything that follows. -/
theorem handled_alike {fields others : List (String × Json)}
    (agree : Json.AgreeOn Envelope.fieldNames fields others) :
    let event (defaultSource : String) := Event.ofFrame defaultSource (.envelope (.obj fields))
    let event' (defaultSource : String) := Event.ofFrame defaultSource (.envelope (.obj others))
    (∀ defaultSource,
      (∀ source payload, event defaultSource ≠ .other source payload) ∧
          event' defaultSource = event defaultSource ∨
        ∃ source, event defaultSource = .other source (.obj fields) ∧
          event' defaultSource = .other source (.obj others)) ∧
    (∀ name, Json.lookup "source" fields = some (.str name) → ∀ defaultSource other,
      event defaultSource = event other ∧ event' defaultSource = event' other) ∧
    ∀ c,
      let taken := ingest (.envelope (.obj fields)) c
      let taken' := ingest (.envelope (.obj others)) c
      taken'.2 = taken.2 ∧
      (taken'.1 = taken.1 ∨ ∃ source,
        taken.1 = c.push (.plain source (.other (.obj fields))) ∧
          taken'.1 = c.push (.plain source (.other (.obj others)))) ∧
      ∀ later later', List.Forall₂ Input.Agree later later' →
        AlikeVeiled (feed later taken.1) (feed later' taken'.1) := by
  intro event event'
  refine ⟨Event.ofValue_of_agree agree, fun name named defaultSource other => ?_, fun c => ?_⟩
  · have named' : Json.lookup "source" others = some (.str name) := by
      rw [← named, agree "source" (by decide)]
    exact ⟨Event.ofValue_of_named named defaultSource other,
      Event.ofValue_of_named named' defaultSource other⟩
  · intro taken taken'
    have alike : AlikeVeiled taken taken' := (Input.Agree.envelope agree).alikeVeiled_update rfl
    refine ⟨alike.1.symm, ?_, fun later later' agree => alikeVeiled_feed agree alike.2⟩
    change (dispatch (event' _) c).1 = (dispatch (event _) c).1 ∨ _
    obtain ⟨-, same⟩ | ⟨source, one, two⟩ := Event.ofValue_of_agree agree c.settings.defaultSource
    · exact .inl (congrArg (fun e => (dispatch e c).1) same)
    · refine .inr ⟨source, ?_, ?_⟩
      · exact (congrArg (fun e => (dispatch e c).1) one).trans
          (congrArg Prod.fst (dispatch_other source (.obj fields) c))
      · exact (congrArg (fun e => (dispatch e c).1) two).trans
          (congrArg Prod.fst (dispatch_other source (.obj others) c))

/-- A text with a version is the text, and an unknown payload with one is that payload with it. -/
theorem handled_alike_versioned :
    let text : List (String × Json) := [("content", .str "Hi"), ("source", .str "user")]
    let unknown : List (String × Json) := [("beat", .bool true)]
    let versioned := Json.insertField "version" (.num (.int 2))
    Json.AgreeOn Envelope.fieldNames text (versioned text) ∧
    Event.ofFrame "assistant" (.envelope (.obj (versioned text))) = .text "user" none "Hi" none false ∧
    (ingest (.envelope (.obj (versioned text))) (new .default)).2 = [.appended 0] ∧
    Json.AgreeOn Envelope.fieldNames unknown (versioned unknown) ∧
    Event.ofFrame "assistant" (.envelope (.obj (versioned unknown))) =
      .other "assistant" (.obj (versioned unknown)) := by
  intro text unknown versioned
  have agree (fields : List (String × Json)) :
      Json.AgreeOn Envelope.fieldNames fields (versioned fields) :=
    .insertField (by decide) _ fields
  have isText : Event.ofFrame "assistant" (.envelope (.obj text)) =
      .text "user" none "Hi" none false := by decide
  have isUnknown : Event.ofFrame "assistant" (.envelope (.obj unknown)) =
      .other "assistant" (.obj unknown) := rfl
  obtain ⟨means, -, handled⟩ := handled_alike (agree text)
  obtain ⟨passedOn, -, -⟩ := handled_alike (agree unknown)
  refine ⟨agree text, ?_, ?_, agree unknown, ?_⟩
  · obtain ⟨-, same⟩ | ⟨source, other, -⟩ := means "assistant"
    · exact same.trans isText
    · cases isText.symm.trans other
  · exact (handled (new .default)).1.trans (by decide)
  · obtain ⟨known, -⟩ | ⟨source, other, same⟩ := passedOn "assistant"
    · exact absurd isUnknown (known "assistant" (.obj unknown))
    · obtain ⟨rfl, -⟩ := Event.other.inj (isUnknown.symm.trans other)
      exact same

end Conversation

end Transcript
