import Transcript.Proofs.Conversation.StatusHistory

/-! # What becomes of a request for input

An envelope can ask the user for input by four signals (`Envelope.signalsInput_iff`), but the status only
waits for the user after a message that may end a turn. Which envelopes are such messages is a matter
of their content alone (`Envelope.MayEndTurn`): a summary, a text that is no trace, calls or results. A
request of any other content is a message like others of that content, which say nothing about the
status.
-/

namespace Transcript

namespace Envelope

/-- The ways to ask the user for input. -/
theorem signalsInput_iff (fields : List (String × Json)) : signalsInput fields = true ↔
    Json.lookup "type" fields = some (.str "input_request") ∨
      Json.lookup "type" fields = some (.str "UserInputRequestedEvent") ∨
      Json.lookup "status" fields = some (.str "awaiting_input") ∨
      Json.lookup "awaiting_input" fields = some (.bool true) := by
  have text : ∀ name s, textField? name fields = some s ↔ Json.lookup name fields = some (.str s) := by
    intro name s
    rw [textField?, Option.bind_eq_some_iff]
    constructor
    · rintro ⟨value, found, same⟩
      cases value with
      | str s' => rw [found, Option.some.inj same]
      | _ => contradiction
    · exact fun found => ⟨_, found, rfl⟩
  have flag : (Json.lookup "awaiting_input" fields).bind Json.bool? = some true ↔
      Json.lookup "awaiting_input" fields = some (.bool true) := by
    rw [Option.bind_eq_some_iff]
    constructor
    · rintro ⟨value, found, same⟩
      cases value with
      | bool b => rw [found, Option.some.inj same]
      | _ => contradiction
    · exact fun found => ⟨_, found, rfl⟩
  simp only [signalsInput, Bool.or_eq_true, beq_iff_eq, text, flag, or_assoc]

def hasTaskResult (e : Envelope) : Bool :=
  (e.content.fields?.any fun fields => (objectField? "task_result" fields).isSome) ||
    (objectField? "task_result" e.fields).isSome

/-- Whether the envelope is a message that may end a turn: a summary, a text that is no trace, or a list
of calls or of results. -/
def mayEndTurn (e : Envelope) : Bool :=
  e.hasTaskResult ||
    match e.content with
    | .str text => !isTrace text
    | .arr items => items.all (fun item => (ToolCall.ofJson false item).isOk) ||
        items.all fun item => (ToolResult.ofJson false item).isOk
    | _ => false

variable {e : Envelope}

/-- The recognisers after one another. -/
theorem recognise?_eq : e.recognise? = (error? e).or ((delta? e).or ((taskSummary? e).or
    ((modelTrace? e).or ((text? e).or ((toolCalls? e).or ((toolResults? e).or (memories? e))))))) := by
  have first (recogniser : Envelope → Option Event) (rest : List (Envelope → Option Event)) :
      (recogniser :: rest).findSome? (fun recogniser => recogniser e) =
        (recogniser e).or (rest.findSome? fun recogniser => recogniser e) := by
    rw [List.findSome?_cons]
    cases recogniser e <;> rfl
  simp only [recognise?, recognisers, first, List.findSome?_nil, Option.or_none]

theorem exists_of_error? {event : Event} (known : error? e = some event) :
    ∃ message, event = .error e.source message := by
  rw [error?, Option.ite_none_right_eq_some] at known
  exact ⟨_, (Option.some.inj known.2).symm⟩

theorem exists_of_delta? {event : Event} (known : delta? e = some event) :
    ∃ text, event = .delta e.source text := by
  rw [delta?, Option.ite_none_right_eq_some, Option.map_eq_some_iff] at known
  obtain ⟨-, text, -, rfl⟩ := known
  exact ⟨text, rfl⟩

/-- A summary is recognised by the result of a task. -/
theorem taskSummary?_cases :
    (e.hasTaskResult = false ∧ taskSummary? e = none) ∨
      e.hasTaskResult = true ∧
        ∃ summary, taskSummary? e = some (.taskSummary e.source e.id summary e.awaitsInput) := by
  let holder := (e.content.fields?.filter fun fields =>
    (objectField? "task_result" fields).isSome).getD e.fields
  let summary (result : List (String × Json)) : TaskSummary :=
    { messages := ((Json.lookup "messages" result).bind Json.items?).getD []
      stopReason := textField? "stop_reason" result
      duration := (Json.lookup "duration" holder).bind Json.double? }
  have reads : taskSummary? e = (objectField? "task_result" holder).map fun result =>
      .taskSummary e.source e.id (summary result) e.awaitsInput := by
    rw [Option.map_eq_bind]
    simp only [taskSummary?, holder, summary]
    cases e.content.fields?.filter _ <;> rfl
  have found : e.hasTaskResult = (objectField? "task_result" holder).isSome := by
    simp only [hasTaskResult, holder]
    cases e.content.fields? with
    | none => rfl
    | some fields =>
      cases result : objectField? "task_result" fields <;> simp [result, Option.filter]
  rw [found, reads]
  cases objectField? "task_result" holder with
  | none => exact .inl ⟨rfl, rfl⟩
  | some result => exact .inr ⟨rfl, summary result, rfl⟩

/-- A list holds records if each item is one. -/
theorem isSome_records?_arr {α : Type} (decode : Json.Decoder α) (items : List Json) :
    (records? decode (.arr items)).isSome = items.all fun item => (decode item).isOk := by
  change (items.mapM decode).toOption.isSome = _
  induction items with
  | nil => rfl
  | cons item rest ih =>
    rw [List.all_cons, ← ih, List.mapM_cons]
    cases decode item with
    | error reason => rfl
    | ok record =>
      cases rest.mapM decode <;> rfl

/-- Memories and unknown payloads set no status. -/
theorem status?_memories? (value : Json) :
    ((memories? e).getD (.other e.source value)).status? = none := by
  simp only [memories?]
  generalize records? (Memory.ofJson false) _ = entries
  cases entries <;> rfl

/-- What the recognisers after that of summaries make of the status. -/
theorem status?_of_resultless (value : Json) (resultless : e.hasTaskResult = false) :
    (((modelTrace? e).or ((text? e).or ((toolCalls? e).or ((toolResults? e).or (memories? e))))).getD
      (.other e.source value)).status? =
        if e.mayEndTurn then some (if e.awaitsInput then .awaitingInput else .ready) else none := by
  cases content : e.content with
  | str text =>
    by_cases traced : isTrace text = true
    · have stays : e.mayEndTurn = false := by simp [mayEndTurn, resultless, content, traced]
      have trace : modelTrace? e = some (.modelTrace e.source e.id text) := by
        simp [modelTrace?, content, Json.string?, traced]
      rw [trace, stays]
      rfl
    · have ends : e.mayEndTurn = true := by simp [mayEndTurn, content, traced]
      have untraced : modelTrace? e = none := by simp [modelTrace?, content, Json.string?, traced]
      have final : text? e = some (.text e.source e.id text e.usage e.awaitsInput) := by
        simp [text?, content, Json.string?]
      rw [untraced, final, ends]
      rfl
  | arr items =>
    have untold : modelTrace? e = none ∧ text? e = none := by
      simp [modelTrace?, text?, content, Json.string?]
    have ends : e.mayEndTurn = ((records? (ToolCall.ofJson false) e.content).isSome ||
        (records? (ToolResult.ofJson false) e.content).isSome) := by
      simp only [mayEndTurn, resultless, content, isSome_records?_arr, Bool.false_or]
    rw [untold.1, untold.2, ends, toolCalls?, toolResults?]
    cases records? (ToolCall.ofJson false) e.content with
    | some calls => rfl
    | none =>
      cases records? (ToolResult.ofJson false) e.content with
      | some results => rfl
      | none => exact status?_memories? value
  | _ =>
    have stays : e.mayEndTurn = false := by simp [mayEndTurn, resultless, content]
    have unknown : modelTrace? e = none ∧ text? e = none ∧ toolCalls? e = none ∧
        toolResults? e = none := by
      simp [modelTrace?, text?, toolCalls?, toolResults?, records?, content, Json.string?, Json.items?]
    rw [unknown.1, unknown.2.1, unknown.2.2.1, unknown.2.2.2, stays]
    exact status?_memories? value

/-- Of an envelope that is no failure and no piece of a growing text, the status depends on whether it
may end a turn and on whether it asks for input. -/
theorem status?_recognise? (value : Json) (harmless : error? e = none) (whole : delta? e = none) :
    (e.recognise?.getD (.other e.source value)).status? =
      if e.mayEndTurn then some (if e.awaitsInput then .awaitingInput else .ready) else none := by
  rw [recognise?_eq, harmless, whole, Option.none_or, Option.none_or]
  obtain ⟨resultless, unknown⟩ | ⟨result, summary, known⟩ := e.taskSummary?_cases
  · rw [unknown, Option.none_or]
    exact status?_of_resultless value resultless
  · have ends : e.mayEndTurn = true := by rw [mayEndTurn, result, Bool.true_or]
    rw [known, ends]
    rfl

/-- An event of an envelope that is no failure and no piece of a growing text sets the status if the
envelope may end a turn, and then the status depends on whether it asks for input. -/
theorem status?_ofValue (defaultSource : String) (fields : List (String × Json))
    (harmless : (Event.ofValue defaultSource (.obj fields)).isFailure = false)
    (whole : (Event.ofValue defaultSource (.obj fields)).isDelta = false) :
    (Event.ofValue defaultSource (.obj fields)).status? =
      if (read defaultSource fields).mayEndTurn then
        some (if signalsInput fields then .awaitingInput else .ready) else none := by
  have means : Event.ofValue defaultSource (.obj fields) =
      (read defaultSource fields).recognise?.getD
        (.other (read defaultSource fields).source (.obj fields)) := rfl
  have noFailure : error? (read defaultSource fields) = none := by
    rw [means, recognise?_eq] at harmless
    cases failure : error? (read defaultSource fields) with
    | none => rfl
    | some event =>
      obtain ⟨message, rfl⟩ := exists_of_error? failure
      rw [failure] at harmless
      contradiction
  have noPiece : delta? (read defaultSource fields) = none := by
    rw [means, recognise?_eq, noFailure] at whole
    cases piece : delta? (read defaultSource fields) with
    | none => rfl
    | some event =>
      obtain ⟨text, rfl⟩ := exists_of_delta? piece
      rw [piece] at whole
      contradiction
  rw [means]
  exact status?_recognise? (.obj fields) noFailure noPiece

end Envelope

namespace Event

/-- An event that is neither a failure nor quiet sets a status. -/
theorem isSome_status?_of_not_isFailure {e : Event} (harmless : e.isFailure = false) :
    e.status?.isSome = !e.isQuiet := by
  cases e with
  | error source message => contradiction
  | _ => rfl

end Event

namespace Conversation

/-- A request for input that is new and neither a failure nor a piece of a growing text is waited for,
unless something has failed before, if its envelope is a message that may end a turn; else it leaves the
status as it is. It is such a message if it is recognised as a text, calls, results or a summary, and
not if it is a trace, memories or nothing known. -/
theorem status_of_asked (settings : Settings) (operations : List Operation)
    (fields : List (String × Json))
    (asks : Json.lookup "type" fields = some (.str "input_request") ∨
      Json.lookup "type" fields = some (.str "UserInputRequestedEvent") ∨
      Json.lookup "status" fields = some (.str "awaiting_input") ∨
      Json.lookup "awaiting_input" fields = some (.bool true)) :
    let c := (run operations (new settings)).1
    let frame := Frame.envelope (.obj fields)
    let e := Event.ofFrame settings.defaultSource frame
    let ends := (Envelope.read settings.defaultSource fields).mayEndTurn
    c.status ≠ .error → e.isFailure = false → e.isDelta = false → c.knows e = false →
      (ingest frame c).1.status = (if ends then .awaitingInput else c.status) ∧
        ends = !e.isQuiet := by
  intro c frame e ends runs harmless whole fresh
  have rebuilt : c.log.Rebuilt := rebuilt_run settings operations
  have same : c.settings = settings := settings_run operations (new settings)
  have signals : Envelope.signalsInput fields = true := (Envelope.signalsInput_iff fields).mpr asks
  have sets : e.status? = if ends then some .awaitingInput else none := by
    have told := Envelope.status?_ofValue settings.defaultSource fields harmless whole
    rwa [signals, if_pos rfl] at told
  constructor
  · have taken : (ingest frame c).1 = c.accept (some e) := by
      rw [ingest, same, dispatch_fst, isDuplicate_eq rebuilt, fresh, if_neg Bool.false_ne_true]
    have still : ¬ (c.status = .error ∨ e.isFailure = true) := by simp [runs, harmless]
    have moved : (c.accept (some e)).status = c.status.after e := rfl
    rw [taken, moved, after_eq, if_neg still, sets]
    cases ends <;> rfl
  · rw [← Event.isSome_status?_of_not_isFailure harmless, sets]
    cases ends <;> rfl

def underway : List Operation := [.input (.frame (.delta (some "agent") "Let me see"))]

def approval : List (String × Json) :=
  [("content", .arr [.obj [("id", .str "c1"), ("name", .str "delete"), ("arguments", .str "all")]]),
    ("id", .str "m1"), ("source", .str "agent"), ("status", .str "awaiting_input")]

theorem status_of_asked_approval :
    let c := (run underway (new .default)).1
    c.status = .thinking ∧ (Envelope.read Settings.default.defaultSource approval).mayEndTurn = true ∧
      (ingest (.envelope (.obj approval)) c).1.status = .awaitingInput := by
  intro c
  have ends : (Envelope.read Settings.default.defaultSource approval).mayEndTurn = true := by
    decide +kernel
  have asked := status_of_asked .default underway approval (.inr (.inr (.inl rfl)))
    (by decide +kernel) (by decide +kernel) (by decide +kernel) (by decide +kernel)
  refine ⟨by decide +kernel, ends, ?_⟩
  rw [asked.1, ends]
  rfl

def bareRequest : List (String × Json) := [("source", .str "agent"), ("type", .str "input_request")]

/-- A request without a content is not waited for: it leaves the run thinking, and the end of the stream
makes it ready. -/
theorem unasked_of_missing_content :
    let c := (run underway (new .default)).1
    let frame := Frame.envelope (.obj bareRequest)
    let e := Event.ofFrame Settings.default.defaultSource frame
    let after := (ingest frame c).1
    c.status ≠ .error ∧ Json.lookup "type" bareRequest = some (.str "input_request") ∧
      e.isFailure = false ∧ e.isDelta = false ∧ c.knows e = false ∧
      after.status = .thinking ∧ after.status ≠ .awaitingInput ∧ (endStream after).1.status = .ready := by
  decide +kernel

end Conversation

end Transcript
