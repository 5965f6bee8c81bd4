import Transcript.Stream.Event
import Transcript.Stream.Frame
import Transcript.Message.Decode

/-! # What an envelope means

An envelope is an object whose fields say who speaks and what. Eight recognisers look at it in a
fixed order, and the first that knows its shape decides; an object that none of them knows is passed
on as it is. Only the fields that `Envelope.read` and the recognisers name are ever looked at.

The order matters where shapes overlap: an error and a summary are recognised before plain text, and
a list is taken for calls before results and for results before memories.
-/

namespace Transcript

/-- The fields that the recognisers share. -/
structure Envelope where
  fields : List (String × Json)
  source : String
  id : Option String
  type : Option String
  content : Json
  usage : Option Usage
  awaitsInput : Bool

namespace Envelope

def textField? (name : String) (fields : List (String × Json)) : Option String :=
  (Json.lookup name fields).bind Json.string?

def objectField? (name : String) (fields : List (String × Json)) :
    Option (List (String × Json)) :=
  (Json.lookup name fields).bind Json.fields?

/-- The id of a message: a text, or the text of a number. -/
def idField? (fields : List (String × Json)) : Option String :=
  match Json.lookup "id" fields with
  | some (.str s) => some s
  | some (.num n) => some n.text
  | _ => none

/-- The usage reported, if it is an object of the right shape. -/
def usageField? (fields : List (String × Json)) : Option Usage :=
  match Json.lookup "models_usage" fields with
  | some (.obj usage) => (Usage.ofJson (.obj usage)).toOption
  | _ => none

/-- Whether one of the three signals asks the user for input. -/
def signalsInput (fields : List (String × Json)) : Bool :=
  textField? "type" fields == some "input_request" ||
    textField? "type" fields == some "UserInputRequestedEvent" ||
    textField? "status" fields == some "awaiting_input" ||
    (Json.lookup "awaiting_input" fields).bind Json.bool? == some true

/-- The shared fields of an object. One that names no source is from `defaultSource`. -/
def read (defaultSource : String) (fields : List (String × Json)) : Envelope where
  fields
  source := (textField? "source" fields).getD defaultSource
  id := idField? fields
  type := textField? "type" fields
  content := (Json.lookup "content" fields).getD .null
  usage := usageField? fields
  awaitsInput := signalsInput fields

/-- An error says so by its type or has a field for it. -/
def error? (e : Envelope) : Option Event :=
  let reported := textField? "error" e.fields
  if e.type = some "error" ∨ reported.isSome then
    some (.error e.source ((reported <|> e.content.string?).getD "Unknown error"))
  else none

/-- A piece of streamed text says so by its type. -/
def delta? (e : Envelope) : Option Event :=
  if e.type = some "ModelClientStreamingChunkEvent" ∨ e.type = some "message_chunk" then
    e.content.string?.map fun text => .delta e.source text
  else none

/-- A summary has a result of the task, in its content or beside it; the duration is beside that. -/
def taskSummary? (e : Envelope) : Option Event := do
  let holder ←
    (e.content.fields?.filter fun fields => (objectField? "task_result" fields).isSome)
      <|> some e.fields
  let result ← objectField? "task_result" holder
  return .taskSummary e.source e.id
    { messages := ((Json.lookup "messages" result).bind Json.items?).getD []
      stopReason := textField? "stop_reason" result
      duration := (Json.lookup "duration" holder).bind Json.double? }
    e.awaitsInput

/-- How the text of the trace of a model call starts. -/
def traceMarkers : List String :=
  ["\x7b\"type\": \"LLMCall\"", "\x7b\"type\":\"LLMCall\""]

/-- Whether a text is the trace of a model call; blanks in front do not count. -/
def isTrace (text : String) : Bool :=
  traceMarkers.any fun marker => marker.toList.isPrefixOf (Text.trimStart text.toList)

/-- The trace of a model call is a text that starts with a marker. -/
def modelTrace? (e : Envelope) : Option Event := do
  let text ← e.content.string?
  if isTrace text then return .modelTrace e.source e.id text else none

/-- Any other text is final. -/
def text? (e : Envelope) : Option Event :=
  e.content.string?.map fun text => .text e.source e.id text e.usage e.awaitsInput

/-- The records that a list holds, if all of its items are such records. -/
def records? {α : Type} (decode : Json.Decoder α) (value : Json) : Option (List α) :=
  value.items?.bind fun items => (items.mapM decode).toOption

def toolCalls? (e : Envelope) : Option Event :=
  (records? (ToolCall.ofJson false) e.content).map fun calls =>
    .toolCalls e.source e.id calls e.usage e.awaitsInput

def toolResults? (e : Envelope) : Option Event :=
  (records? (ToolResult.ofJson false) e.content).map fun results =>
    .toolResults e.source e.id results e.awaitsInput

/-- A list of memories, bare or in a field of the content. -/
def memories? (e : Envelope) : Option Event :=
  let list := match e.content with
    | .obj fields => (Json.lookup "content" fields).getD .null
    | other => other
  (records? (Memory.ofJson false) list).map fun entries => .memories e.source e.id entries

/-- The recognisers, in the order in which they are asked. -/
def recognisers : List (Envelope → Option Event) :=
  [error?, delta?, taskSummary?, modelTrace?, text?, toolCalls?, toolResults?, memories?]

/-- What the first recogniser that knows the envelope says. -/
def recognise? (e : Envelope) : Option Event :=
  recognisers.findSome? fun recogniser => recogniser e

end Envelope

namespace Event

/-- The meaning of the value of an envelope. -/
def ofValue (defaultSource : String) (value : Json) : Event :=
  match value with
  | .obj fields =>
    let envelope := Envelope.read defaultSource fields
    envelope.recognise?.getD (.other envelope.source value)
  | _ => .other defaultSource value

/-- The meaning of a frame. What names no source is from `defaultSource`. -/
def ofFrame (defaultSource : String) : Frame → Event
  | .failure message => .error defaultSource message
  | .delta source piece => .delta (source.getD defaultSource) piece
  | .envelope value => ofValue defaultSource value

end Event

end Transcript
