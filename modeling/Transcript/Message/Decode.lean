import Transcript.Message.Basic

/-! # Messages, runs and sessions read from JSON

Every record may be written as an object or as the list of its fields. The data of a content in
object form is held back until its kind is known (`held`), which shows only in the words for a list
that is too long.
-/

namespace Transcript

open Json.Decoder (field? required item itemOr checkWidth record)

/-- A call. Arguments may be any value, or missing. -/
def ToolCall.ofJson (held : Bool) : Json.Decoder ToolCall :=
  record "FunctionCall"
    (fun fields => do
      let arguments ← field? fields "arguments" .anyText
      let id ← field? fields "id" .text
      let name ← field? fields "name" .text
      return ⟨← required "id" id, ← required "name" name, arguments.getD ""⟩)
    (fun items => do
      let id ← item "FunctionCall" 3 items 0 .text
      let name ← item "FunctionCall" 3 items 1 .text
      let arguments ← itemOr items 2 .anyText ""
      checkWidth held 3 items
      return ⟨id, name, arguments⟩)

/-- A result. Its content may be any value. -/
def ToolResult.ofJson (held : Bool) : Json.Decoder ToolResult :=
  record "FunctionExecutionResult"
    (fun fields => do
      let callId ← field? fields "call_id" .text
      let content ← field? fields "content" .anyText
      let isError ← field? fields "is_error" (.optional .truth)
      let name ← field? fields "name" (.optional .text)
      return ⟨← required "call_id" callId, ← required "content" content, isError.join, name.join⟩)
    (fun items => do
      let callId ← item "FunctionExecutionResult" 4 items 0 .text
      let content ← item "FunctionExecutionResult" 4 items 1 .anyText
      let isError ← itemOr items 2 (.optional .truth) none
      let name ← itemOr items 3 (.optional .text) none
      checkWidth held 4 items
      return ⟨callId, content, isError, name⟩)

/-- A summary. Every part of it may be missing. -/
def TaskSummary.ofJson (held : Bool) : Json.Decoder TaskSummary :=
  record "TaskResultSummary"
    (fun fields => do
      let duration ← field? fields "duration" (.optional .double)
      let messages ← field? fields "messages" (.list .any)
      let stopReason ← field? fields "stop_reason" (.optional .text)
      return ⟨messages.getD [], stopReason.join, duration.join⟩)
    (fun items => do
      let messages ← itemOr items 0 (.list .any) []
      let stopReason ← itemOr items 1 (.optional .text) none
      let duration ← itemOr items 2 (.optional .double) none
      checkWidth held 3 items
      return ⟨messages, stopReason, duration⟩)

def Memory.ofJson (held : Bool) : Json.Decoder Memory :=
  record "MemoryContent"
    (fun fields => do
      let content ← field? fields "content" .any
      let mimeType ← field? fields "mime_type" .text
      return ⟨← required "content" content, ← required "mime_type" mimeType⟩)
    (fun items => do
      let content ← item "MemoryContent" 2 items 0 .any
      let mimeType ← item "MemoryContent" 2 items 1 .text
      checkWidth held 2 items
      return ⟨content, mimeType⟩)

/-- A usage. A count that is missing is zero. -/
def Usage.ofJson : Json.Decoder Usage :=
  record "RequestUsage"
    (fun fields => do
      let completionTokens ← field? fields "completion_tokens" .natural
      let promptTokens ← field? fields "prompt_tokens" .natural
      return ⟨promptTokens.getD 0, completionTokens.getD 0⟩)
    (fun items => do
      let promptTokens ← itemOr items 0 .natural 0
      let completionTokens ← itemOr items 1 .natural 0
      checkWidth false 2 items
      return ⟨promptTokens, completionTokens⟩)

namespace Content

def kindNames : List (String × Kind) := Kind.all.map fun kind => (kind.name, kind)

/-- The content of a kind with the given data. -/
def ofData (held : Bool) (data : Json) : Kind → Except Json.ShapeError Content
  | .text => .text <$> Json.Decoder.text data
  | .toolCalls => .toolCalls <$> Json.Decoder.list (ToolCall.ofJson held) data
  | .toolResults => .toolResults <$> Json.Decoder.list (ToolResult.ofJson held) data
  | .taskSummary => .taskSummary <$> TaskSummary.ofJson held data
  | .modelTrace => .modelTrace <$> Json.Decoder.text data
  | .memories => .memories <$> Json.Decoder.list (Memory.ofJson held) data
  | .error => .error <$> Json.Decoder.text data
  | .other => .ok (.other data)

/-- A content, from an object with its kind and its data or from the list of these two. -/
def ofJson : Json.Decoder Content
  | .obj fields => do
    let kind ← required "kind" (← field? fields "kind" (.variant kindNames))
    ofData true (← required "data" (← field? fields "data" .any)) kind
  | .arr items =>
    match items with
    | [] => .error (.wrongLength 0 .content)
    | kind :: rest => do
      let kind ← Json.Decoder.variantName kindNames kind
      match rest with
      | [] => throw (.wrongLength 1 .content)
      | data :: _ =>
        let content ← ofData false data kind
        checkWidth false 2 items
        return content
  | value => .error (.wrongType value.shape .content)

end Content

def Message.ofJson : Json.Decoder Message :=
  record "Message"
    (fun fields => do
      let content ← field? fields "content" Content.ofJson
      let id ← field? fields "id" (.optional .text)
      let usage ← field? fields "models_usage" (.optional Usage.ofJson)
      let source ← field? fields "source" .text
      return ⟨id.join, ← required "source" source, ← required "content" content, usage.join⟩)
    (fun items => do
      let id ← itemOr items 0 (.optional .text) none
      let source ← item "Message" 4 items 1 .text
      let content ← item "Message" 4 items 2 Content.ofJson
      let usage ← itemOr items 3 (.optional Usage.ofJson) none
      checkWidth false 4 items
      return ⟨id, source, content, usage⟩)

def Session.ofJson : Json.Decoder Session :=
  record "Session"
    (fun fields => do
      let agentId ← field? fields "agent_id" .text
      let createdAt ← field? fields "created_at" .timestamp
      let id ← field? fields "id" .text
      let name ← field? fields "name" .text
      return ⟨← required "id" id, ← required "agent_id" agentId, ← required "name" name,
        ← required "created_at" createdAt⟩)
    (fun items => do
      let id ← item "Session" 4 items 0 .text
      let agentId ← item "Session" 4 items 1 .text
      let name ← item "Session" 4 items 2 .text
      let createdAt ← item "Session" 4 items 3 .timestamp
      checkWidth false 4 items
      return ⟨id, agentId, name, createdAt⟩)

/-- A run. One that does not say when it was created was created `now`. -/
def Run.ofJson (now : Timestamp) : Json.Decoder Run :=
  record "Run"
    (fun fields => do
      let createdAt ← field? fields "created_at" .timestamp
      let id ← field? fields "id" .text
      let messages ← field? fields "messages" (.list Message.ofJson)
      let sessionId ← field? fields "session_id" .text
      let status ← field? fields "status" Status.ofJson
      let task ← field? fields "task" .text
      return ⟨← required "id" id, ← required "session_id" sessionId, task.getD "",
        status.getD .ready, messages.getD [], createdAt.getD now⟩)
    (fun items => do
      let id ← item "Run" 6 items 0 .text
      let sessionId ← item "Run" 6 items 1 .text
      let task ← itemOr items 2 .text ""
      let status ← itemOr items 3 Status.ofJson .ready
      let messages ← itemOr items 4 (.list Message.ofJson) []
      let createdAt ← itemOr items 5 .timestamp now
      checkWidth false 6 items
      return ⟨id, sessionId, task, status, messages, createdAt⟩)

/-- Whether a run in JSON says when it was created. -/
def Run.givesCreation : Json → Bool
  | .obj fields => (Json.lookup "created_at" fields).isSome
  | .arr items => 5 < items.length
  | _ => false

end Transcript
