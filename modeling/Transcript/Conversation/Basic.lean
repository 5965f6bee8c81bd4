import Transcript.Settings
import Transcript.Stream.Envelope
import Transcript.Conversation.Progress
import Transcript.Conversation.Streaming
import Transcript.Conversation.TokenTotals
import Transcript.Conversation.CallRegister

/-! # The conversation of a run

A conversation takes frames one by one and keeps the log of final messages, and beside it what
follows from the log and from the frames since: the ids seen, the growing texts, the tool calls with
their results, the tokens and the status. Every operation also says what it changed, in order.

A frame whose message id is in the log already is dropped before it can change anything. There are
two ways to fill a conversation: `ingest`, frame by frame, and `load`, from the messages of a
stored run, which leaves the status to the run.
-/

namespace Transcript

/-- What an observer is told about a change of a conversation. -/
inductive Change where
  /-- The message with this number is new. -/
  | appended (seq : Nat)
  /-- The growing text of the source is longer. -/
  | streamUpdated (source : String)
  /-- The records of the request of this message have changed. -/
  | toolCallsUpdated (source : String) (message : Nat)
  | tokensUpdated (stats : TokenTotals)
  | statusChanged (status : Status)
  | reset
  /-- The conversation now shows this stored run. -/
  | loaded (runId : String)
deriving DecidableEq, Repr

structure Conversation where
  settings : Settings
  runId : Option String
  /-- The final messages. -/
  messages : Array Message
  /-- The ids of the final messages, the latest one first. -/
  seen : List String
  streaming : Streaming
  register : CallRegister
  tokens : TokenTotals
  status : Status
  /-- How often the conversation has started again. The program counts in 64 bits; the number here is
  idealised and never comes round. -/
  epoch : Nat
deriving DecidableEq, Repr

namespace Conversation

/-- A conversation before its first run. -/
def new (settings : Settings) : Conversation where
  settings
  runId := none
  messages := #[]
  seen := []
  streaming := ∅
  register := ∅
  tokens := .zero
  status := .ready
  epoch := 0

/-! ## Parts of an update -/

/-- An operation on a conversation, with the changes that it makes known. -/
abbrev Update : Type := Conversation → Conversation × List Change

def Update.andThen (first second : Update) : Update := fun c =>
  let (c, before) := first c
  let (c, after) := second c
  (c, before ++ after)

def Update.all : List Update → Update
  | [] => fun c => (c, [])
  | update :: rest => update.andThen (Update.all rest)

def push (c : Conversation) (m : Message) : Conversation :=
  { c with messages := c.messages.push m, seen := m.id.toList ++ c.seen }

def append (m : Message) : Update := fun c =>
  (c.push m, [.appended c.messages.size])

/-- Make a message of every growing text, the one that began first in front. -/
def flush : Update := fun c =>
  Update.all (c.streaming.toList.map fun buffer => append (.text buffer.1 buffer.2))
    { c with streaming := ∅ }

def recordUsage (c : Conversation) (usage : Option Usage) : Conversation :=
  match usage with
  | some usage => { c with tokens := c.tokens.record usage }
  | none => c

/-- Count the tokens of a model call and make the totals known. -/
def countTokens (usage : Option Usage) : Update := fun c =>
  let c := c.recordUsage usage
  (c, if usage.isSome then [.tokensUpdated c.tokens] else [])

/-- Enter the calls of the message with number `seq`. The request is stale if an older one of the
source is open. -/
def openCalls (source : String) (seq : Nat) (calls : List ToolCall) (c : Conversation) :
    Conversation × RequestOutcome :=
  let (register, outcome) := c.register.request source seq calls
  ({ c with register }, outcome)

/-- Enter results; says whether any of them answers a call. -/
def resolveResults (source : String) (results : List ToolResult) (c : Conversation) :
    Conversation × Bool :=
  let (register, changed) := results.foldl
    (fun (state : CallRegister × Bool) result =>
      let (register, outcome) := state.1.resolve source result
      (register, state.2 || outcome = .correlated))
    (c.register, false)
  ({ c with register }, changed)

/-- Finish the growing text of a source, if there is one: it is the content of the message. -/
def finishText (source : String) (content : String) (c : Conversation) : String × Conversation :=
  let (pending, streaming) := c.streaming.take source
  (pending.getD content, { c with streaming })

/-! ## Taking a frame -/

/-- What an event does besides moving the status. -/
def apply (e : Event) : Update := fun c =>
  match e with
  | .delta source piece =>
    ({ c with streaming := c.streaming.push source piece }, [.streamUpdated source])
  | .text source id content usage _ =>
    let (content, c) := c.finishText source content
    ((countTokens usage).andThen (append ⟨id, source, .text content, usage⟩)) c
  | .toolCalls source id calls usage _ =>
    let seq := c.messages.size
    let (c, appended) := append ⟨id, source, .toolCalls calls, usage⟩ c
    let (c, outcome) := c.openCalls source seq calls
    (c, appended ++ if outcome = .stale then [] else [.toolCallsUpdated source seq])
  | .toolResults source id results _ =>
    let (c, changed) := c.resolveResults source results
    let updated := match c.register.activeTrigger? source with
      | some message => if changed then [.toolCallsUpdated source message] else []
      | none => []
    let (c, appended) := append ⟨id, source, .toolResults results, none⟩ c
    (c, updated ++ appended)
  | .taskSummary source id summary _ =>
    (flush.andThen (append ⟨id, source, .taskSummary summary, none⟩)) c
  | .modelTrace source id trace => append ⟨id, source, .modelTrace trace, none⟩ c
  | .memories source id entries => append ⟨id, source, .memories entries, none⟩ c
  | .error source message => (flush.andThen (append (.plain source (.error message)))) c
  | .other source payload => append (.plain source (.other payload)) c

/-- Move the status, after everything else has been made known. -/
def moveStatus (status : Status) : Update := fun c =>
  ({ c with status },
    match c.status.change? status with
    | some status => [.statusChanged status]
    | none => [])

/-- Whether the event is a second delivery of a message of the log. -/
def isDuplicate (c : Conversation) (e : Event) : Bool :=
  match e.messageId with
  | some id => c.seen.contains id
  | none => false

def dispatch (e : Event) : Update := fun c =>
  if c.isDuplicate e then (c, [])
  else ((apply e).andThen (moveStatus (c.status.after e))) c

def ingest (frame : Frame) : Update := fun c =>
  dispatch (.ofFrame c.settings.defaultSource frame) c

/-- The stream has ended: growing texts are final, and nobody is thinking any more. -/
def endStream : Update := fun c =>
  (flush.andThen (moveStatus c.status.settled)) c

/-! ## Starting again -/

/-- The conversation without anything of its run. -/
def cleared (c : Conversation) : Conversation :=
  { new c.settings with epoch := c.epoch + 1 }

/-- Start again, without a run. -/
def reset : Update := fun c => (c.cleared, [.reset])

/-- Start again with the first frame of a run still to come. -/
def beginRun (runId : String) : Update := fun c =>
  ({ c.cleared with runId := some runId }, [.reset])

/-- Take a message of a stored run, unless its id is in the log already. -/
def restore (c : Conversation) (m : Message) : Conversation :=
  if m.id.any c.seen.contains then c
  else
    match m.content with
    | .text _ => (c.recordUsage m.usage).push m
    | .toolCalls calls => ((c.push m).openCalls m.source c.messages.size calls).1
    | .toolResults results => (c.resolveResults m.source results).1.push m
    | .taskSummary _ | .modelTrace _ | .memories _ | .error _ | .other _ => c.push m

def load (run : Run) : Update := fun c =>
  let restored := run.messages.foldl restore { c.cleared with runId := some run.id }
  ({ restored with status := run.status }, [.loaded run.id])

/-! ## Questions -/

/-- The messages to show, with their numbers. -/
def visible (c : Conversation) : List (Nat × Message) :=
  c.messages.toList.zipIdx.filterMap fun (m, seq) =>
    if c.settings.isHidden m.source then none else some (seq, m)

def pendingText (c : Conversation) (source : String) : Option String :=
  c.streaming.pending source

def recordsFor (c : Conversation) (source : String) (message : Nat) : List ToolRecord :=
  c.register.recordsFor source message

def unresolvedCalls (c : Conversation) : List (String × ToolCall) :=
  c.register.unresolved.map fun (source, record) => (source, record.call)

end Conversation

end Transcript
