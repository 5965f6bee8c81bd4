import Transcript.Conversation.Basic
import Transcript.Message.Encode

/-! # What is shown of a conversation

A snapshot holds what a reader of the conversation sees: the messages and growing texts of the
sources that are not hidden, each request with the results of its calls, and the state of the run.
Messages keep the numbers that they have in the log.
-/

namespace Transcript

def ToolRecord.toJson (r : ToolRecord) : Json :=
  .obj [("call", r.call.toJson), ("result", .ofOption ToolResult.toJson r.result)]

structure ShownMessage where
  seq : Nat
  message : Message
  /-- The calls of a request with their results. -/
  toolCalls : List ToolRecord
deriving DecidableEq, Repr

/-- A shown message as JSON: its number, its own fields, and its calls if there are any. -/
def ShownMessage.toJson (m : ShownMessage) : Json :=
  .obj ([("seq", .ofNat m.seq)] ++ m.message.fields
    ++ if m.toolCalls.isEmpty then []
      else [("tool_calls", .arr (m.toolCalls.map ToolRecord.toJson))])

/-- A conversation as it is shown. -/
structure Snapshot where
  runId : Option String
  status : Status
  tokens : TokenTotals
  messages : List ShownMessage
  /-- The growing texts, by source. -/
  streaming : List (String × String)
deriving DecidableEq, Repr

def Streaming.bufferJson (buffer : String × String) : Json :=
  .obj [("source", .str buffer.1), ("text", .str buffer.2)]

def Snapshot.toJson (s : Snapshot) : Json :=
  .obj [("run_id", .ofOption .str s.runId), ("status", s.status.toJson),
    ("tokens", s.tokens.toJson), ("messages", .arr (s.messages.map ShownMessage.toJson)),
    ("streaming", .arr (s.streaming.map Streaming.bufferJson))]

namespace Conversation

def shown (c : Conversation) (seq : Nat) (m : Message) : ShownMessage where
  seq
  message := m
  toolCalls := match m.content with
    | .toolCalls _ => c.recordsFor m.source seq
    | _ => []

def snapshot (c : Conversation) : Snapshot where
  runId := c.runId
  status := c.status
  tokens := c.tokens
  messages := c.visible.map fun (seq, m) => c.shown seq m
  streaming := c.streaming.toList.filter fun buffer => !c.settings.isHidden buffer.1

end Conversation

end Transcript
