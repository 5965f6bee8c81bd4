import Transcript.Proofs.Message.Written
import Transcript.Stream.Envelope

/-! # Envelopes mean what was put into them

`Wire.envelope` is the value that a server sends: a heading that every envelope shares, and a body
of one of the known forms. Reading it gives back the event with that heading and that payload.

The recognisers are asked in a fixed order, so it has to be shown of each body that the ones before
its own know nothing of it. The heading has no `error` field and a type only for a piece of a text
(`Wire.error?_eq_none`, `Wire.delta?_eq_none`), and it has no result of a task beside the content
(`Wire.taskSummary?_eq_none`). What is left are the lists, where the decoders of the records decide.
-/

namespace Transcript

namespace Wire

structure Heading where
  source : String
  id : Option String
  usage : Option Usage
  /-- Whether the user is asked for input. -/
  awaitsInput : Bool

/-- What an envelope is about, in one of the forms that are known. -/
inductive Body where
  /-- A final text, or the trace of a model call. -/
  | text (text : String)
  | toolCalls (calls : List ToolCall)
  | toolResults (results : List ToolResult)
  | memories (entries : List Memory)
  /-- Memories in an object around their list. -/
  | nestedMemories (entries : List Memory)
  | taskSummary (summary : TaskSummary)
  /-- A piece of a text that is still growing. -/
  | piece (text : String)

/-- The type that an envelope with this body gives. -/
def Body.type? : Body → Option String
  | .piece _ => some "message_chunk"
  | .text _ | .toolCalls _ | .toolResults _ | .memories _ | .nestedMemories _ | .taskSummary _ =>
    none

def resultFields (s : TaskSummary) : List (String × Json) :=
  [("messages", .arr s.messages)] ++ Json.optionalField "stop_reason" .str s.stopReason

/-- A summary as the content of an envelope: the duration is beside the result of the task. -/
def summaryFields (s : TaskSummary) : List (String × Json) :=
  [("task_result", .obj (resultFields s))]
    ++ Json.optionalField "duration" (fun x => .num (.float x)) s.duration

def Body.content : Body → Json
  | .text s | .piece s => .str s
  | .toolCalls calls => .arr (calls.map ToolCall.toJson)
  | .toolResults results => .arr (results.map ToolResult.toJson)
  | .memories entries => .arr (entries.map Memory.toJson)
  | .nestedMemories entries => .obj [("content", .arr (entries.map Memory.toJson))]
  | .taskSummary summary => .obj (summaryFields summary)

def fields (h : Heading) (b : Body) : List (String × Json) :=
  [("source", .str h.source)] ++ Json.optionalField "id" .str h.id
    ++ Json.optionalField "models_usage" Usage.toJson h.usage
    ++ Json.optionalField "awaiting_input" .bool (if h.awaitsInput then some true else none)
    ++ Json.optionalField "type" .str b.type? ++ [("content", b.content)]

def envelope (h : Heading) (b : Body) : Json := (Json.obj (fields h b)).sorted

/-- The event that an envelope stands for. A text is the trace of a model call if it starts with
one of the markers, blanks in front of it not counted. -/
def event (h : Heading) : Body → Event
  | .text text =>
    if ∃ marker ∈ Envelope.traceMarkers, marker.toList <+: Text.trimStart text.toList then
      .modelTrace h.source h.id text
    else .text h.source h.id text h.usage h.awaitsInput
  | .toolCalls calls => .toolCalls h.source h.id calls h.usage h.awaitsInput
  | .toolResults results => .toolResults h.source h.id results h.awaitsInput
  | .memories entries | .nestedMemories entries => .memories h.source h.id entries
  | .taskSummary summary => .taskSummary h.source h.id summary h.awaitsInput
  | .piece text => .delta h.source text

def Body.payloads : Body → List Json
  | .memories entries | .nestedMemories entries => entries.map Memory.content
  | .taskSummary summary => summary.messages
  | .text _ | .toolCalls _ | .toolResults _ | .piece _ => []

/-- What a body needs to be told apart: an empty list is one of calls, and payloads are values that
can have been read. -/
structure Body.Distinct (b : Body) : Prop where
  results_ne : b ≠ .toolResults []
  memories_ne : b ≠ .memories []
  sorted : ∀ v ∈ b.payloads, v.sorted = v

/-! ## The shared fields -/

/-- What the recognisers see of an envelope. -/
structure Seen (h : Heading) (b : Body) (e : Envelope) : Prop where
  source : e.source = h.source
  id : e.id = h.id
  type : e.type = b.type?
  content : e.content = b.content.sorted
  usage : e.usage = h.usage
  awaitsInput : e.awaitsInput = h.awaitsInput
  error : Json.lookup "error" e.fields = none
  taskResult : Json.lookup "task_result" e.fields = none

theorem exists_sorted_usage (u : Usage) : ∃ inner, u.toJson.sorted = .obj inner := by
  obtain ⟨inner, written, _⟩ := Json.exists_sorted_obj
    [("prompt_tokens", .ofUInt64 u.promptTokens),
      ("completion_tokens", .ofUInt64 u.completionTokens)]
  exact ⟨inner, written⟩

/-- The text field of an object in which a text was written, or nothing. -/
theorem textField?_eq {name : String} {fields : List (String × Json)} {s : Option String}
    (written : Json.lookup name fields = s.map .str) : Envelope.textField? name fields = s := by
  rw [Envelope.textField?, written]
  cases s <;> rfl

theorem usageField?_eq {fields : List (String × Json)} {u : Option Usage}
    (written : Json.lookup "models_usage" fields = u.map fun u => u.toJson.sorted) :
    Envelope.usageField? fields = u := by
  cases u with
  | none => simp [Envelope.usageField?, written]
  | some u =>
    obtain ⟨inner, object⟩ := exists_sorted_usage u
    have reads := Usage.ofJson_toJson u
    rw [object] at reads
    simp [Envelope.usageField?, written, object, reads, Except.toOption]

theorem exists_seen (h : Heading) (b : Body) (defaultSource : String) :
    ∃ inner, envelope h b = .obj inner ∧ Seen h b (Envelope.read defaultSource inner) := by
  obtain ⟨inner, written, holds⟩ := Json.exists_sorted_obj (fields h b)
  have source : Envelope.textField? "source" inner = some h.source :=
    textField?_eq (by simp [holds, fields, Json.lookup])
  have type : Envelope.textField? "type" inner = b.type? :=
    textField?_eq (by simp [holds, fields, Json.lookup, Function.comp_def])
  have status : Envelope.textField? "status" inner = none :=
    textField?_eq (by simp [holds, fields, Json.lookup])
  have id : Json.lookup "id" inner = h.id.map .str := by
    simp [holds, fields, Json.lookup, Function.comp_def]
  have content : Json.lookup "content" inner = some b.content.sorted := by
    simp [holds, fields, Json.lookup]
  have usage : Envelope.usageField? inner = h.usage :=
    usageField?_eq (by simp [holds, fields, Json.lookup, Function.comp_def])
  have awaits : Json.lookup "awaiting_input" inner =
      (if h.awaitsInput then some true else none).map .bool := by
    simp [holds, fields, Json.lookup]
  refine ⟨inner, written, ⟨by simp [Envelope.read, source], ?_, type,
    by simp [Envelope.read, content], usage, ?_, by simp [Envelope.read, holds, fields, Json.lookup],
    by simp [Envelope.read, holds, fields, Json.lookup]⟩⟩
  · cases stated : h.id <;> simp [Envelope.read, Envelope.idField?, id, stated]
  · cases flagged : h.awaitsInput <;> cases b <;>
      simp [Envelope.read, Envelope.signalsInput, type, status, awaits, flagged, Body.type?,
        Json.bool?]

/-! ## Recognisers that know nothing of an envelope -/

variable {h : Heading} {b : Body} {e : Envelope}

theorem error?_eq_none (seen : Seen h b e) : Envelope.error? e = none := by
  have noError : Envelope.textField? "error" e.fields = none := by
    simp [Envelope.textField?, seen.error]
  have type : e.type ≠ some "error" := by
    rw [seen.type]
    cases b <;> simp [Body.type?]
  simp [Envelope.error?, noError, type]

theorem delta?_eq_none (seen : Seen h b e) (untyped : b.type? = none) :
    Envelope.delta? e = none := by
  simp [Envelope.delta?, seen.type, untyped]

/-- Nothing of an envelope is a summary unless its content holds the result of a task. -/
theorem taskSummary?_eq_none (seen : Seen h b e)
    (other : ∀ fields, b.content.sorted = .obj fields → Json.lookup "task_result" fields = none) :
    Envelope.taskSummary? e = none := by
  have beside : Envelope.objectField? "task_result" e.fields = none := by
    simp [Envelope.objectField?, seen.taskResult]
  have inside : (e.content.fields?.filter fun fields =>
      (Envelope.objectField? "task_result" fields).isSome) = none := by
    rw [seen.content]
    cases content : b.content.sorted with
    | obj fields => simp [Json.fields?, Envelope.objectField?, other fields content, Option.filter]
    | _ => rfl
  simp [Envelope.taskSummary?, inside, beside]

/-- A text is the only content that the recognisers of traces and final texts know. -/
theorem texts_eq_none (seen : Seen h b e) (other : b.content.sorted.string? = none) :
    Envelope.modelTrace? e = none ∧ Envelope.text? e = none := by
  simp [Envelope.modelTrace?, Envelope.text?, seen.content, other]

theorem records?_sorted {α : Type} {decode : Json.Decoder α} {encode : α → Json} {as : List α}
    (reads : ∀ a ∈ as, decode (encode a).sorted = .ok a) :
    Envelope.records? decode (Json.arr (as.map encode)).sorted = some as := by
  have all := Json.Decoder.list_sorted_eq_ok reads
  rw [Json.sorted_arr, Json.Decoder.list_arr] at all
  simp only [Envelope.records?, Json.sorted_arr, Json.items?, Option.bind_some, all, Except.toOption]

theorem records?_eq_none {α β : Type} {decode : Json.Decoder α} {encode : β → Json} {bs : List β}
    {fault : Json.ShapeError} (some_written : bs ≠ [])
    (refuses : ∀ b, decode (encode b).sorted = .error fault) :
    Envelope.records? decode (Json.arr (bs.map encode)).sorted = none := by
  obtain ⟨first, rest, rfl⟩ := List.exists_cons_of_ne_nil some_written
  simp [Envelope.records?, Json.items?, refuses first, Except.toOption]

theorem isTrace_iff (text : String) :
    Envelope.isTrace text = true ↔
      ∃ marker ∈ Envelope.traceMarkers, marker.toList <+: Text.trimStart text.toList := by
  simp [Envelope.isTrace]

/-! ## One body at a time -/

theorem recognise?_piece {text : String} (seen : Seen h (.piece text) e) :
    e.recognise? = some (event h (.piece text)) := by
  have delta : Envelope.delta? e = some (.delta h.source text) := by
    simp [Envelope.delta?, seen.type, seen.content, seen.source, Body.type?, Body.content,
      Json.string?]
  simp [Envelope.recognise?, Envelope.recognisers, error?_eq_none seen, delta, event]

theorem recognise?_taskSummary {summary : TaskSummary} (seen : Seen h (.taskSummary summary) e)
    (sorted : ∀ v ∈ summary.messages, v.sorted = v) :
    e.recognise? = some (event h (.taskSummary summary)) := by
  obtain ⟨result, resultWritten, resultHolds⟩ := Json.exists_sorted_obj (resultFields summary)
  obtain ⟨holder, written, holds⟩ := Json.exists_sorted_obj (summaryFields summary)
  have content : e.content = .obj holder := by rw [seen.content, Body.content, written]
  have taskResult : Envelope.objectField? "task_result" holder = some result := by
    simp [Envelope.objectField?, holds, summaryFields, Json.lookup, resultWritten, Json.fields?]
  have same : summary.messages.map Json.sorted = summary.messages := by
    simpa using List.map_congr_left sorted
  have messages : Json.lookup "messages" result = some (.arr summary.messages) := by
    simp [resultHolds, resultFields, Json.lookup, same]
  have stopReason : Envelope.textField? "stop_reason" result = summary.stopReason :=
    textField?_eq (by simp [resultHolds, resultFields, Json.lookup, Function.comp_def])
  have duration : (Json.lookup "duration" holder).bind Json.double? = summary.duration := by
    cases stated : summary.duration <;>
      simp [holds, summaryFields, Json.lookup, stated, Json.double?]
  have recognised : Envelope.taskSummary? e = some (event h (.taskSummary summary)) := by
    simp [Envelope.taskSummary?, content, Json.fields?, taskResult, messages, Json.items?,
      stopReason, duration, Option.filter, seen.source, seen.id, seen.awaitsInput, event]
  simp [Envelope.recognise?, Envelope.recognisers, error?_eq_none seen, delta?_eq_none seen rfl,
    recognised]

theorem recognise?_text {text : String} (seen : Seen h (.text text) e) :
    e.recognise? = some (event h (.text text)) := by
  have content : e.content.string? = some text := by
    rw [seen.content, Body.content, Json.sorted_str, Json.string?]
  have noSummary := taskSummary?_eq_none seen (by simp [Body.content])
  simp only [Envelope.recognise?, Envelope.recognisers, List.findSome?_cons, error?_eq_none seen,
    delta?_eq_none seen rfl, noSummary, event]
  by_cases trace : Envelope.isTrace text = true
  · rw [if_pos ((isTrace_iff text).mp trace)]
    simp [Envelope.modelTrace?, content, trace, seen.source, seen.id]
  · rw [if_neg (mt (isTrace_iff text).mpr trace)]
    simp [Envelope.modelTrace?, Envelope.text?, content, trace, seen.source, seen.id, seen.usage,
      seen.awaitsInput]

/-- An envelope whose content is a list is one of calls, results or memories. -/
theorem recognise?_list {items : List Json} (seen : Seen h b e) (untyped : b.type? = none)
    (list : b.content.sorted = .arr items) :
    e.recognise? = [Envelope.toolCalls?, Envelope.toolResults?, Envelope.memories?].findSome?
      fun recogniser => recogniser e := by
  have noSummary := taskSummary?_eq_none seen (by simp [list])
  have noTexts := texts_eq_none seen (by rw [list]; rfl)
  simp [Envelope.recognise?, Envelope.recognisers, error?_eq_none seen, delta?_eq_none seen untyped,
    noSummary, noTexts]

theorem recognise?_toolCalls {calls : List ToolCall} (seen : Seen h (.toolCalls calls) e) :
    e.recognise? = some (event h (.toolCalls calls)) := by
  have reads := records?_sorted fun c (_ : c ∈ calls) => ToolCall.ofJson_toJson false c
  rw [recognise?_list seen rfl (Json.sorted_arr _)]
  simp only [List.findSome?_cons, Envelope.toolCalls?, seen.content, Body.content, reads,
    Option.map_some, seen.source, seen.id, seen.usage, seen.awaitsInput, event]

theorem recognise?_toolResults {results : List ToolResult} (some_written : results ≠ [])
    (seen : Seen h (.toolResults results) e) :
    e.recognise? = some (event h (.toolResults results)) := by
  have noCalls := records?_eq_none some_written (ToolCall.ofJson_toolResult false)
  have reads := records?_sorted fun r (_ : r ∈ results) => ToolResult.ofJson_toJson false r
  rw [recognise?_list seen rfl (Json.sorted_arr _)]
  simp only [List.findSome?_cons, Envelope.toolCalls?, Envelope.toolResults?, seen.content,
    Body.content, noCalls, reads, Option.map_some, Option.map_none, seen.source, seen.id,
    seen.awaitsInput, event]

theorem recognise?_memories {entries : List Memory} (some_written : entries ≠ [])
    (sorted : ∀ m ∈ entries, m.content.sorted = m.content)
    (seen : Seen h (.memories entries) e) :
    e.recognise? = some (event h (.memories entries)) := by
  have noCalls := records?_eq_none some_written (ToolCall.ofJson_memory false)
  have noResults := records?_eq_none some_written (ToolResult.ofJson_memory false)
  have reads := records?_sorted fun m member => Memory.ofJson_toJson false (sorted m member)
  have list := Json.sorted_arr (entries.map Memory.toJson)
  rw [recognise?_list seen rfl list]
  rw [list] at noCalls noResults reads
  simp only [List.findSome?_cons, Envelope.toolCalls?, Envelope.toolResults?, Envelope.memories?,
    seen.content, Body.content, list, noCalls, noResults, reads, Option.map_some, Option.map_none,
    seen.source, seen.id, event]

theorem recognise?_nestedMemories {entries : List Memory}
    (sorted : ∀ m ∈ entries, m.content.sorted = m.content)
    (seen : Seen h (.nestedMemories entries) e) :
    e.recognise? = some (event h (.nestedMemories entries)) := by
  obtain ⟨inner, written, holds⟩ := Json.exists_sorted_obj
    [("content", .arr (entries.map Memory.toJson))]
  have reads := records?_sorted fun m member => Memory.ofJson_toJson false (sorted m member)
  have list : Json.lookup "content" inner = some (Json.arr (entries.map Memory.toJson)).sorted := by
    simp [holds, Json.lookup]
  have noSummary := taskSummary?_eq_none seen (by
    rintro fields object
    rw [Body.content, written, Json.obj.injEq] at object
    simp [← object, holds, Json.lookup])
  have noTexts := texts_eq_none seen (by rw [Body.content, written]; rfl)
  have content : e.content = .obj inner := by rw [seen.content, Body.content, written]
  have noCalls : Envelope.toolCalls? e = none := by
    rw [Envelope.toolCalls?, content]; rfl
  have noResults : Envelope.toolResults? e = none := by
    rw [Envelope.toolResults?, content]; rfl
  have recognised : Envelope.memories? e = some (event h (.nestedMemories entries)) := by
    simp only [Envelope.memories?, content, list, Option.getD_some, reads, Option.map_some,
      seen.source, seen.id, event]
  simp [Envelope.recognise?, Envelope.recognisers, error?_eq_none seen, delta?_eq_none seen rfl,
    noSummary, noTexts, noCalls, noResults, recognised]

/-- Every envelope means exactly what was put into it. -/
theorem ofFrame_envelope (h : Heading) {b : Body} (distinct : b.Distinct) (defaultSource : String) :
    Event.ofFrame defaultSource (.envelope (envelope h b)) = event h b := by
  obtain ⟨inner, written, seen⟩ := exists_seen h b defaultSource
  have recognised : (Envelope.read defaultSource inner).recognise? = some (event h b) := by
    cases b with
    | text text => exact recognise?_text seen
    | toolCalls calls => exact recognise?_toolCalls seen
    | toolResults results =>
      exact recognise?_toolResults (fun none => distinct.results_ne (none ▸ rfl)) seen
    | memories entries =>
      exact recognise?_memories (fun none => distinct.memories_ne (none ▸ rfl))
        (fun m member => distinct.sorted m.content (List.mem_map_of_mem member)) seen
    | nestedMemories entries =>
      exact recognise?_nestedMemories
        (fun m member => distinct.sorted m.content (List.mem_map_of_mem member)) seen
    | taskSummary summary => exact recognise?_taskSummary seen distinct.sorted
    | piece text => exact recognise?_piece seen
  rw [written, Event.ofFrame, Event.ofValue, recognised, Option.getD_some]

/-- A memory is a memory even if its content has the fields of a call. -/
theorem ofFrame_envelope_memory_like_call :
    (Body.memories [⟨.obj [("id", .str "c1"), ("name", .str "find")], "application/json"⟩]).Distinct ∧
      Event.ofFrame "assistant" (.envelope (envelope ⟨"helper", some "m1", some ⟨3, 4⟩, true⟩
        (.memories [⟨.obj [("id", .str "c1"), ("name", .str "find")], "application/json"⟩]))) =
      .memories "helper" (some "m1")
        [⟨.obj [("id", .str "c1"), ("name", .str "find")], "application/json"⟩] := by
  have distinct : (Body.memories
      [⟨.obj [("id", .str "c1"), ("name", .str "find")], "application/json"⟩]).Distinct :=
    ⟨by simp, by simp, by decide +kernel⟩
  exact ⟨distinct, ofFrame_envelope _ distinct _⟩

end Wire

end Transcript
