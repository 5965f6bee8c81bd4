import Transcript.Json.Shape

/-! # The status of a run

Four states, each with the one name by which texts refer to it.
-/

namespace Transcript

/-- Where a run stands. -/
inductive Status where
  /-- Nothing is being said. -/
  | ready
  /-- Something is being said. -/
  | thinking
  /-- The run goes on when the user has answered. -/
  | awaitingInput
  /-- The run has failed. -/
  | error
deriving DecidableEq, Repr, Inhabited

namespace Status

def name : Status → String
  | ready => "ready"
  | thinking => "thinking"
  | awaitingInput => "awaiting_input"
  | error => "error"

def all : List Status := [ready, thinking, awaitingInput, error]

def toJson (s : Status) : Json := .str s.name

def ofJson : Json.Decoder Status :=
  Json.Decoder.variant (all.map fun s => (s.name, s))

@[simp] theorem ofJson_toJson (s : Status) : ofJson s.toJson = .ok s := by
  cases s <;> rfl

end Status

end Transcript
