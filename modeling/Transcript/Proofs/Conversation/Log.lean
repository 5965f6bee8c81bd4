import Transcript.Proofs.Conversation.Operation

/-! # What a conversation keeps of its messages

The log of a conversation is its messages with what has been gathered from them: the ids seen, the
register of calls and the totals. A message is entered in one way only (`Log.enter`), whether it
comes live or from a stored run, so an update is described by the messages that it finishes
(`update_fst`) and a loaded run by its messages alone (`load_fst`).
-/

namespace Transcript

/-- Messages with what has been gathered from them. -/
structure Log where
  messages : List Message
  /-- The ids of the messages, the latest one first. -/
  seen : List String
  register : CallRegister
  tokens : TokenTotals
deriving DecidableEq, Repr

/-- The register after the message with number `seq`. -/
def CallRegister.enter (l : CallRegister) (seq : Nat) (m : Message) : CallRegister :=
  match m.content with
  | .toolCalls calls => (l.request m.source seq calls).1
  | .toolResults results => results.foldl (fun l result => (l.resolve m.source result).1) l
  | _ => l

/-- The totals after a message: only the usage of a text counts. -/
def TokenTotals.enter (t : TokenTotals) (m : Message) : TokenTotals :=
  match m.content, m.usage with
  | .text _, some usage => t.record usage
  | _, _ => t

namespace Log

def empty : Log := ⟨[], [], ∅, .zero⟩

def enter (l : Log) (m : Message) : Log where
  messages := l.messages ++ [m]
  seen := m.id.toList ++ l.seen
  register := l.register.enter l.messages.length m
  tokens := l.tokens.enter m

/-- Whether a message with the id of this one is there. -/
def holds (l : Log) (m : Message) : Bool := m.id.any l.seen.contains

def take (l : Log) (m : Message) : Log := if l.holds m then l else l.enter m

def ofMessages (ms : List Message) : Log := ms.foldl take empty

theorem messages_foldl_enter (ms : List Message) (l : Log) :
    (ms.foldl enter l).messages = l.messages ++ ms := by
  induction ms generalizing l with
  | nil => exact (List.append_nil _).symm
  | cons m rest ih => rw [List.foldl_cons, ih, enter, List.append_assoc]; rfl

theorem mem_seen_foldl_enter (ms : List Message) (l : Log) (id : String) :
    id ∈ (ms.foldl enter l).seen ↔ id ∈ l.seen ∨ id ∈ ms.filterMap Message.id := by
  induction ms generalizing l with
  | nil => simp
  | cons m rest ih =>
    rw [List.foldl_cons, ih]
    cases known : m.id <;> simp [enter, known, or_assoc, or_left_comm]

end Log

namespace Conversation

def log (c : Conversation) : Log := ⟨c.messages.toList, c.seen, c.register, c.tokens⟩

def withLog (c : Conversation) (l : Log) : Conversation :=
  { c with
    messages := l.messages.toArray, seen := l.seen, register := l.register, tokens := l.tokens }

@[simp] theorem seen_log (c : Conversation) : c.log.seen = c.seen := rfl

@[simp] theorem log_withLog (c : Conversation) (l : Log) : (c.withLog l).log = l := rfl

theorem withLog_log (c : Conversation) : c.withLog c.log = c := rfl

theorem withLog_withLog (c : Conversation) (l l' : Log) :
    (c.withLog l).withLog l' = c.withLog l' := rfl

theorem holds_log (c : Conversation) (e : Event) : c.log.holds e.toMessage = c.isDuplicate e := by
  rw [Log.holds, Event.id_toMessage, isDuplicate]
  cases e.messageId <;> rfl

/-! ## Messages of a stored run -/

/-- A message is pushed before or after its calls and its usage are counted, all the same. -/
theorem withLog_enter (c : Conversation) (m : Message) :
    c.withLog (c.log.enter m) =
      { c.push m with
        register := c.register.enter c.messages.size m, tokens := c.tokens.enter m } := by
  have last : (c.messages.toList ++ [m]).toArray = c.messages.push m :=
    (List.push_toArray c.messages.toList m).symm
  simp only [withLog, log, Log.enter, push, last, Array.length_toList]

private theorem resolveResults_fst (c : Conversation) (source : String)
    (results : List ToolResult) :
    (c.resolveResults source results).1 =
      { c with
        register := results.foldl (fun l result => (l.resolve source result).1) c.register } := by
  have same : ∀ state : CallRegister × Bool,
      (results.foldl (fun (state : CallRegister × Bool) result =>
        ((state.1.resolve source result).1,
          state.2 || (state.1.resolve source result).2 = .correlated)) state).1 =
      results.foldl (fun l result => (l.resolve source result).1) state.1 := by
    intro state
    induction results generalizing state with
    | nil => rfl
    | cons result rest ih => simp only [List.foldl_cons, ih]
  exact congrArg (fun register => ({ c with register } : Conversation)) (same (c.register, false))

theorem enter_text (c : Conversation) (id : Option String) (source content : String)
    (usage : Option Usage) :
    (c.recordUsage usage).push ⟨id, source, .text content, usage⟩ =
      c.withLog (c.log.enter ⟨id, source, .text content, usage⟩) := by
  rw [withLog_enter]
  cases usage <;> rfl

theorem enter_toolCalls (c : Conversation) (id : Option String) (source : String)
    (calls : List ToolCall) (usage : Option Usage) :
    ((c.push ⟨id, source, .toolCalls calls, usage⟩).openCalls source c.messages.size calls).1 =
      c.withLog (c.log.enter ⟨id, source, .toolCalls calls, usage⟩) := by
  rw [withLog_enter]
  rfl

theorem enter_toolResults (c : Conversation) (id : Option String) (source : String)
    (results : List ToolResult) (usage : Option Usage) :
    (c.resolveResults source results).1.push ⟨id, source, .toolResults results, usage⟩ =
      c.withLog (c.log.enter ⟨id, source, .toolResults results, usage⟩) := by
  rw [withLog_enter, resolveResults_fst]
  rfl

/-- A stored message is taken as the log takes it. -/
theorem restore_eq (c : Conversation) (m : Message) : c.restore m = c.withLog (c.log.take m) := by
  by_cases known : m.id.any c.seen.contains
  · have held : c.log.holds m = true := known
    simp only [restore, known, if_true, Log.take, held, withLog_log]
  · have fresh : c.log.holds m = false := Bool.eq_false_iff.mpr known
    obtain ⟨id, source, content, usage⟩ := m
    simp only [restore, if_neg known, Log.take, fresh, Bool.false_eq_true, if_false]
    cases content with
    | text body => exact enter_text c id source body usage
    | toolCalls calls => exact enter_toolCalls c id source calls usage
    | toolResults results => exact enter_toolResults c id source results usage
    | _ => exact (withLog_enter c _).symm

theorem foldl_restore (ms : List Message) (c : Conversation) :
    ms.foldl restore c = c.withLog (ms.foldl Log.take c.log) := by
  induction ms generalizing c with
  | nil => rfl
  | cons m rest ih => simp only [List.foldl_cons, restore_eq, ih, log_withLog, withLog_withLog]

/-- A loaded run is known by its messages, but for its id and its status. -/
theorem load_fst (run : Run) (c : Conversation) :
    (load run c).1 =
      { c.cleared.withLog (.ofMessages run.messages) with
        runId := some run.id, status := run.status } := by
  simp only [load, foldl_restore]
  rfl

/-! ## Inputs -/

/-- What an input means; the end of the stream is no event. -/
def Input.event? (defaultSource : String) : Input → Option Event
  | .frame unit => some (.ofFrame defaultSource unit)
  | .ended => none

/-- Every growing text as a message, the one that began first in front. -/
def flushed (c : Conversation) : List Message :=
  c.streaming.toList.map fun buffer => .text buffer.1 buffer.2

/-- The messages that an event finishes, or that the end of the stream does. -/
def finished (c : Conversation) : Option Event → List Message
  | none => c.flushed
  | some (.delta ..) => []
  | some (.text source id content usage _) =>
    [⟨id, source, .text ((c.pendingText source).getD content), usage⟩]
  | some (.taskSummary source id summary awaits) =>
    c.flushed ++ [(Event.taskSummary source id summary awaits).toMessage]
  | some (.error source message) => c.flushed ++ [(Event.error source message).toMessage]
  | some e => [e.toMessage]

end Conversation

/-- The growing texts after an event, or after the end of the stream. -/
def Streaming.after (s : Streaming) : Option Event → Streaming
  | none | some (.taskSummary ..) | some (.error ..) => ∅
  | some (.delta source piece) => s.push source piece
  | some (.text source ..) => (s.take source).2
  | some _ => s

/-- The status after an event, or after the end of the stream. -/
def Status.afterInput (s : Status) : Option Event → Status
  | none => s.settled
  | some e => s.after e

namespace Conversation

/-- The conversation after an event that is no second delivery, or after the end of the stream. -/
def accept (c : Conversation) (e? : Option Event) : Conversation :=
  { c.withLog ((c.finished e?).foldl Log.enter c.log) with
    streaming := c.streaming.after e?, status := c.status.afterInput e? }

theorem messages_accept (c : Conversation) (e? : Option Event) :
    (c.accept e?).messages.toList = c.messages.toList ++ c.finished e? :=
  Log.messages_foldl_enter (c.finished e?) c.log

theorem appendTexts_fst (buffers : List (String × String)) (c : Conversation) :
    (Update.all (buffers.map fun buffer => append (.text buffer.1 buffer.2)) c).1 =
      c.withLog ((buffers.map fun buffer => Message.text buffer.1 buffer.2).foldl Log.enter c.log) := by
  induction buffers generalizing c with
  | nil => rfl
  | cons buffer rest ih =>
    have entered : c.push (.text buffer.1 buffer.2) =
        c.withLog (c.log.enter (.text buffer.1 buffer.2)) := (withLog_enter c _).symm
    simp only [List.map_cons, Update.all, Update.andThen_fst, append, entered, ih, log_withLog,
      withLog_withLog, List.foldl_cons]

theorem flush_fst (c : Conversation) :
    (flush c).1 = { c.withLog (c.flushed.foldl Log.enter c.log) with streaming := ∅ } :=
  appendTexts_fst c.streaming.toList { c with streaming := ∅ }

/-- Whatever an event does but move the status, it does by the messages that it finishes. -/
theorem apply_fst (e : Event) (c : Conversation) :
    (apply e c).1 =
      { c.withLog ((c.finished (some e)).foldl Log.enter c.log) with
        streaming := c.streaming.after (some e) } := by
  cases e with
  | delta source piece => rfl
  | text source id content usage awaits =>
    exact enter_text { c with streaming := (c.streaming.take source).2 } id source _ usage
  | toolCalls source id calls usage awaits => exact enter_toolCalls c id source calls usage
  | toolResults source id results awaits => exact enter_toolResults c id source results none
  | taskSummary source id summary awaits =>
    simp only [apply, Update.andThen_fst, flush_fst, append, finished, List.foldl_append]
    exact (withLog_enter { c.withLog (c.flushed.foldl Log.enter c.log) with streaming := ∅ }
      ⟨id, source, .taskSummary summary, none⟩).symm
  | error source message =>
    simp only [apply, Update.andThen_fst, flush_fst, append, finished, List.foldl_append]
    exact (withLog_enter { c.withLog (c.flushed.foldl Log.enter c.log) with streaming := ∅ }
      (.plain source (.error message))).symm
  | modelTrace source id trace => exact (withLog_enter c _).symm
  | memories source id entries => exact (withLog_enter c _).symm
  | other source payload => exact (withLog_enter c _).symm

theorem dispatch_fst (e : Event) (c : Conversation) :
    (dispatch e c).1 = if c.isDuplicate e then c else c.accept (some e) := by
  unfold dispatch
  split
  · rfl
  · simp only [Update.andThen_fst, moveStatus, apply_fst]
    rfl

theorem endStream_fst (c : Conversation) : (endStream c).1 = c.accept none := by
  simp only [endStream, Update.andThen_fst, moveStatus, flush_fst]
  rfl

/-- An input does nothing if it delivers a message again, and else what `accept` says. -/
theorem update_fst (input : Input) (c : Conversation) :
    (input.update c).1 =
      if (input.event? c.settings.defaultSource).any c.isDuplicate then c
      else c.accept (input.event? c.settings.defaultSource) := by
  cases input with
  | frame unit => exact dispatch_fst _ c
  | ended => exact endStream_fst c

/-! ## What no operation changes -/

theorem settings_input (input : Input) (c : Conversation) :
    (input.update c).1.settings = c.settings := by
  rw [update_fst]
  split <;> rfl

theorem settings_load (stored : Run) (c : Conversation) :
    (load stored c).1.settings = c.settings := by
  rw [load_fst]
  rfl

theorem settings_run (operations : List Operation) (c : Conversation) :
    (run operations c).1.settings = c.settings := by
  apply run_invariant (P := fun current => current.settings = c.settings) rfl
  rintro current (input | again) same
  · exact (settings_input input current).trans same
  · cases again with
    | reset => exact same
    | beginRun runId => exact same
    | load stored => exact (settings_load stored current).trans same

theorem settings_beginning (c : Conversation) (beginning : Beginning) :
    (beginning.conversation c).settings = c.settings := by
  cases beginning <;> rfl

theorem settings_feed (inputs : List Input) (c : Conversation) :
    (feed inputs c).1.settings = c.settings := by
  induction inputs using List.reverseRecOn with
  | nil => rfl
  | append_singleton rest last ih => rw [feed_concat, settings_input, ih]

theorem epoch_input (input : Input) (c : Conversation) : (input.update c).1.epoch = c.epoch := by
  rw [update_fst]
  split <;> rfl

/-- Only a restart counts as one. -/
theorem epoch_feed (inputs : List Input) (c : Conversation) : (feed inputs c).1.epoch = c.epoch := by
  induction inputs using List.reverseRecOn with
  | nil => rfl
  | append_singleton rest last ih => rw [feed_concat, epoch_input, ih]

theorem runId_input (input : Input) (c : Conversation) : (input.update c).1.runId = c.runId := by
  rw [update_fst]
  split <;> rfl

theorem runId_feed (inputs : List Input) (c : Conversation) : (feed inputs c).1.runId = c.runId := by
  induction inputs using List.reverseRecOn with
  | nil => rfl
  | append_singleton rest last ih => rw [feed_concat, runId_input, ih]

end Conversation

end Transcript
