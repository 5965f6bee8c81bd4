import Transcript.Stream.Envelope
import Mathlib.Data.List.Basic

/-! # Who an envelope is from

No recogniser looks at the source: what an envelope means is the same from anyone
(`Envelope.recognise?_withSource`). So two readings of an envelope that differ in the default source
are the same event but for its source, and the very same if the envelope names one
(`Event.ofValue_obj`).
-/

namespace Transcript

def Message.withSource (source : String) (m : Message) : Message := { m with source }

namespace Event

def withSource (source : String) : Event → Event
  | .delta _ piece => .delta source piece
  | .text _ id content usage awaits => .text source id content usage awaits
  | .toolCalls _ id calls usage awaits => .toolCalls source id calls usage awaits
  | .toolResults _ id results awaits => .toolResults source id results awaits
  | .taskSummary _ id summary awaits => .taskSummary source id summary awaits
  | .modelTrace _ id trace => .modelTrace source id trace
  | .memories _ id entries => .memories source id entries
  | .error _ message => .error source message
  | .other _ payload => .other source payload

theorem toMessage_withSource (source : String) (e : Event) :
    (e.withSource source).toMessage = e.toMessage.withSource source := by
  cases e <;> rfl

end Event

namespace Envelope

def withSource (source : String) (e : Envelope) : Envelope := { e with source }

variable (source : String) (e : Envelope)

theorem recogniser_withSource {recogniser : Envelope → Option Event}
    (member : recogniser ∈ recognisers) :
    recogniser (e.withSource source) = (recogniser e).map (Event.withSource source) := by
  simp only [recognisers, List.mem_cons, List.not_mem_nil, or_false] at member
  rcases member with rfl | rfl | rfl | rfl | rfl | rfl | rfl | rfl
  · simp only [error?, withSource, apply_ite (Option.map _), Option.map_none]
    rfl
  · simp only [delta?, withSource, apply_ite (Option.map _), Option.map_none, Option.map_map]
    rfl
  · simp only [taskSummary?, withSource, bind, pure, Option.map_bind, Function.comp_def]
    rfl
  · simp only [modelTrace?, withSource, bind, pure, Option.map_bind, Function.comp_def,
      apply_ite (Option.map _), Option.map_none]
    rfl
  all_goals
    simp only [text?, toolCalls?, toolResults?, memories?, withSource, Option.map_map]
    rfl

/-- An envelope means what another one does, but for a change of the event, if it does so to every
recogniser. -/
theorem recognise?_eq_map {e other : Envelope} {change : Event → Event}
    (each : ∀ recogniser ∈ recognisers, recogniser other = (recogniser e).map change) :
    other.recognise? = e.recognise?.map change := by
  rw [recognise?, recognise?]
  generalize recognisers = recognisers at each
  induction recognisers with
  | nil => rfl
  | cons first rest ih =>
    obtain ⟨here, later⟩ := List.forall_mem_cons.mp each
    rw [List.findSome?_cons, List.findSome?_cons, here]
    cases first e with
    | none => exact ih later
    | some event => rfl

/-- What an envelope means is the same from anyone. -/
theorem recognise?_withSource :
    (e.withSource source).recognise? = e.recognise?.map (Event.withSource source) :=
  recognise?_eq_map fun _ member => recogniser_withSource source e member

end Envelope

/-- Under another default source an envelope means the same, from the source that it names or else from
that one. -/
theorem Event.ofValue_obj (defaultSource other : String) (fields : List (String × Json)) :
    ofValue defaultSource (.obj fields) = (ofValue other (.obj fields)).withSource
      ((Envelope.textField? "source" fields).getD defaultSource) := by
  have means := Envelope.recognise?_withSource
    ((Envelope.textField? "source" fields).getD defaultSource) (.read other fields)
  change (Envelope.read defaultSource fields).recognise? = _ at means
  simp only [ofValue, means]
  cases (Envelope.read other fields).recognise? <;> rfl

end Transcript
