import Transcript.Message.Status

/-! # Messages, runs and sessions

A message is what one source said, once it is final. Its content is one of eight kinds: text, the
two halves of a tool call, the summary at the end of a task, the trace of a model call, retrieved
memories, an error, or any payload that is none of these. A run is the stored form of a
conversation, and sessions group runs of one agent.
-/

namespace Transcript

structure ToolCall where
  id : String
  name : String
  /-- The arguments as text, JSON by convention. -/
  arguments : String
deriving DecidableEq, Repr

/-- What a tool answered to the call of that id. -/
structure ToolResult where
  callId : String
  content : String
  isError : Option Bool
  name : Option String
deriving DecidableEq, Repr

/-- What a team reports when its task is done. -/
structure TaskSummary where
  messages : List Json
  stopReason : Option String
  /-- In seconds. -/
  duration : Option Binary64
deriving DecidableEq, Repr

structure Memory where
  content : Json
  mimeType : String
deriving DecidableEq, Repr

/-- The tokens that a model call took. -/
structure Usage where
  promptTokens : UInt64
  completionTokens : UInt64
deriving DecidableEq, Repr

inductive Content where
  | text (text : String)
  | toolCalls (calls : List ToolCall)
  | toolResults (results : List ToolResult)
  | taskSummary (summary : TaskSummary)
  | modelTrace (trace : String)
  | memories (memories : List Memory)
  | error (message : String)
  | other (payload : Json)
deriving DecidableEq, Repr

inductive Content.Kind where
  | text
  | toolCalls
  | toolResults
  | taskSummary
  | modelTrace
  | memories
  | error
  | other
deriving DecidableEq, Repr

namespace Content

/-- The name by which texts refer to a kind. -/
def Kind.name : Kind → String
  | text => "text"
  | toolCalls => "tool_call_request"
  | toolResults => "tool_call_result"
  | taskSummary => "task_result"
  | modelTrace => "model_call_trace"
  | memories => "memory_query"
  | error => "error"
  | other => "other"

def Kind.all : List Kind :=
  [text, toolCalls, toolResults, taskSummary, modelTrace, memories, error, other]

def kind : Content → Kind
  | .text _ => .text
  | .toolCalls _ => .toolCalls
  | .toolResults _ => .toolResults
  | .taskSummary _ => .taskSummary
  | .modelTrace _ => .modelTrace
  | .memories _ => .memories
  | .error _ => .error
  | .other _ => .other

end Content

structure Message where
  /-- The id the server gave, by which a second delivery is recognised. -/
  id : Option String
  source : String
  content : Content
  usage : Option Usage
deriving DecidableEq, Repr

namespace Message

/-- A message without id and usage. -/
def plain (source : String) (content : Content) : Message :=
  { id := none, source, content, usage := none }

/-- A text without id and usage. -/
def text (source text : String) : Message :=
  plain source (.text text)

def withUsage (m : Message) (usage : Usage) : Message :=
  { m with usage := some usage }

end Message

/-- A call without arguments of its own beyond their text. -/
def ToolCall.of (id name arguments : String) : ToolCall := { id, name, arguments }

/-- A result that says neither whether it is an error nor which tool gave it. -/
def ToolResult.of (callId content : String) : ToolResult :=
  { callId, content, isError := none, name := none }

/-- A session: runs of one agent under a name. -/
structure Session where
  id : String
  agentId : String
  name : String
  createdAt : Timestamp
deriving DecidableEq, Repr

structure Run where
  id : String
  sessionId : String
  task : String
  status : Status
  messages : List Message
  createdAt : Timestamp
deriving DecidableEq, Repr

/-- A run before its first message. -/
def Run.start (id sessionId task : String) (createdAt : Timestamp) : Run :=
  { id, sessionId, task, status := .ready, messages := [], createdAt }

end Transcript
