import Transcript.Message.Basic

/-! # Events

What a frame means. Every event has a source and, but for streamed text, stands for exactly one
message (`Event.toMessage`); six kinds may carry the id by which a second delivery is recognised,
and four say whether the user has to answer.
-/

namespace Transcript

/-- What a frame means. -/
inductive Event where
  /-- A piece of a text that is still growing. -/
  | delta (source text : String)
  /-- A text that is final. -/
  | text (source : String) (id : Option String) (content : String) (usage : Option Usage)
      (awaitsInput : Bool)
  | toolCalls (source : String) (id : Option String) (calls : List ToolCall)
      (usage : Option Usage) (awaitsInput : Bool)
  | toolResults (source : String) (id : Option String) (results : List ToolResult)
      (awaitsInput : Bool)
  | taskSummary (source : String) (id : Option String) (summary : TaskSummary)
      (awaitsInput : Bool)
  | modelTrace (source : String) (id : Option String) (trace : String)
  | memories (source : String) (id : Option String) (entries : List Memory)
  | error (source message : String)
  /-- A payload of no known shape. -/
  | other (source : String) (payload : Json)
deriving DecidableEq, Repr

namespace Event

def source : Event → String
  | .delta source _ | .text source .. | .toolCalls source .. | .toolResults source ..
  | .taskSummary source .. | .modelTrace source .. | .memories source .. | .error source _
  | .other source _ => source

/-- The id of the message that the event makes final. -/
def messageId : Event → Option String
  | .text _ id .. | .toolCalls _ id .. | .toolResults _ id .. | .taskSummary _ id ..
  | .modelTrace _ id _ | .memories _ id _ => id
  | .delta .. | .error .. | .other .. => none

def awaitsInput : Event → Bool
  | .text _ _ _ _ awaits | .toolCalls _ _ _ _ awaits | .toolResults _ _ _ awaits
  | .taskSummary _ _ _ awaits => awaits
  | .delta .. | .modelTrace .. | .memories .. | .error .. | .other .. => false

/-- The message that the event stands for in a stored run. -/
def toMessage : Event → Message
  | .delta source piece => .text source piece
  | .text source id content usage _ => ⟨id, source, .text content, usage⟩
  | .toolCalls source id calls usage _ => ⟨id, source, .toolCalls calls, usage⟩
  | .toolResults source id results _ => ⟨id, source, .toolResults results, none⟩
  | .taskSummary source id summary _ => ⟨id, source, .taskSummary summary, none⟩
  | .modelTrace source id trace => ⟨id, source, .modelTrace trace, none⟩
  | .memories source id entries => ⟨id, source, .memories entries, none⟩
  | .error source message => .plain source (.error message)
  | .other source payload => .plain source (.other payload)

def kindName : Event → String
  | .delta .. => "streaming_delta"
  | .text .. => "finalized_text"
  | .toolCalls .. => "tool_call_request"
  | .toolResults .. => "tool_call_result"
  | .taskSummary .. => "task_result_summary"
  | .modelTrace .. => "model_call_trace"
  | .memories .. => "memory_query_result"
  | .error .. => "error"
  | .other .. => "unclassified"

theorem id_toMessage (e : Event) : e.toMessage.id = e.messageId := by
  cases e <;> rfl

end Event

end Transcript
