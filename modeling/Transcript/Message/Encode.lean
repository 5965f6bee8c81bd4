import Transcript.Message.Basic

/-! # Messages, runs and sessions as JSON

Every record becomes an object with its fields in the order of the record. Optional fields are left
out where there is nothing to write. A content is an object of its kind and its data.
-/

namespace Transcript

def Json.ofUInt64 (n : UInt64) : Json := .ofNat n.toNat

def ToolCall.toJson (c : ToolCall) : Json :=
  .obj [("id", .str c.id), ("name", .str c.name), ("arguments", .str c.arguments)]

def ToolResult.toJson (r : ToolResult) : Json :=
  .obj ([("call_id", .str r.callId), ("content", .str r.content)]
    ++ Json.optionalField "is_error" .bool r.isError ++ Json.optionalField "name" .str r.name)

def TaskSummary.toJson (s : TaskSummary) : Json :=
  .obj ([("messages", .arr s.messages)] ++ Json.optionalField "stop_reason" .str s.stopReason
    ++ Json.optionalField "duration" (fun x => .num (.float x)) s.duration)

def Memory.toJson (m : Memory) : Json :=
  .obj [("content", m.content), ("mime_type", .str m.mimeType)]

def Usage.toJson (u : Usage) : Json :=
  .obj [("prompt_tokens", .ofUInt64 u.promptTokens),
    ("completion_tokens", .ofUInt64 u.completionTokens)]

/-- What a content holds, without its kind. -/
def Content.data : Content → Json
  | .text s => .str s
  | .toolCalls calls => .arr (calls.map ToolCall.toJson)
  | .toolResults results => .arr (results.map ToolResult.toJson)
  | .taskSummary summary => summary.toJson
  | .modelTrace trace => .str trace
  | .memories entries => .arr (entries.map Memory.toJson)
  | .error message => .str message
  | .other payload => payload

def Content.toJson (c : Content) : Json :=
  .obj [("kind", .str c.kind.name), ("data", c.data)]

def Message.fields (m : Message) : List (String × Json) :=
  Json.optionalField "id" .str m.id ++ [("source", .str m.source), ("content", m.content.toJson)]
    ++ Json.optionalField "models_usage" Usage.toJson m.usage

def Message.toJson (m : Message) : Json := .obj m.fields

def Timestamp.toJson (t : Timestamp) : Json := .str t.text

def Session.toJson (s : Session) : Json :=
  .obj [("id", .str s.id), ("agent_id", .str s.agentId), ("name", .str s.name),
    ("created_at", s.createdAt.toJson)]

/-- The fields of a run but the last one, its time of creation. -/
def Run.leadingFields (r : Run) : List (String × Json) :=
  [("id", .str r.id), ("session_id", .str r.sessionId), ("task", .str r.task),
    ("status", r.status.toJson), ("messages", .arr (r.messages.map Message.toJson))]

def Run.toJson (r : Run) : Json :=
  .obj (r.leadingFields ++ [("created_at", r.createdAt.toJson)])

end Transcript
