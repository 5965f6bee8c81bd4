import Transcript.Json.Reader
import Transcript.Message.Decode
import Transcript.Stream.Envelope

/-! # The text of a stored run

A stored run is a JSON text. Its messages may be in the form in which messages are written, or in
the form of envelopes, and then they are what a live envelope would have meant; each item of the
list is read by itself, so none of them can make the run unreadable. The messages are taken out of
an object before the rest of it is read.
-/

namespace Transcript

/-- Why a text is no stored run. -/
inductive RunFileError where
  | syntaxFault (error : Json.SyntaxError)
  | wrongShape (error : Json.ShapeError)
deriving DecidableEq, Repr

def RunFileError.message : RunFileError → String
  | syntaxFault error => error.message
  | wrongShape error => error.message

/-- An object without the fields of a name; any other value as it is. -/
def Json.without (name : String) : Json → Json
  | .obj fields => .obj (fields.filter fun field => field.1 ≠ name)
  | other => other

namespace Message

/-- The source of an envelope in a stored run that names none. -/
def storedSource : String := "assistant"

/-- The message that an item of a stored run stands for. -/
def ofStored (item : Json) : Message :=
  match ofJson item with
  | .ok m => m
  | .error _ => (Event.ofValue storedSource item).toMessage

end Message

namespace Run

def storedMessages (messages : Option Json) : Except Json.ShapeError (List Message) :=
  match messages with
  | some (.arr items) => .ok (items.map Message.ofStored)
  | some other => .error (.wrongType other.shape .list)
  | none => .ok []

/-- The run that a value of a run file stands for. -/
def ofStored (now : Timestamp) (value : Json) : Except Json.ShapeError Run := do
  let run ← ofJson now (value.without "messages")
  let messages ← storedMessages (value.field? "messages")
  return { run with messages }

/-- The run that the text of a run file stands for. -/
def ofText (now : Timestamp) (text : String) : Except RunFileError Run := do
  let value ← (Json.parse text).mapError .syntaxFault
  (ofStored now value).mapError .wrongShape

/-- Whether the text of a run file says when the run was created. -/
def textGivesCreation (text : String) : Bool :=
  match Json.parse text with
  | .ok value => givesCreation value
  | .error _ => false

end Run

end Transcript
