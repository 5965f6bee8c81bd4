import Transcript.Proofs.Storage.StoredEnvelopes
import Transcript.Proofs.Storage.StoredRun

/-! # What is made of the messages of a stored run

The messages are taken out of an object before the rest of it is read, and each of them is then read by
itself. So a run that is an object and can be read as it stands is read as the same run
(`Run.ofStored_of_fields`), and of a run with messages of any other form nothing can be refused that its
other fields do not (`Run.ofText_of_items`): an item is the message that it is read as, and where it cannot
be a message it is an envelope.

Nothing can be taken out of a list. A run in the form of a list is read with its messages and then loses
them (`Run.ofText_of_ofJson`).
-/

namespace Transcript

open Json (lookup)
open Json.Decoder

namespace Json.Decoder

variable {α β : Type}

/-- What succeeds has succeeded in each of its steps. -/
theorem exists_ok_bind {ε : Type} {x : Except ε α} {f : α → Except ε β} {b : β}
    (ok : (x >>= f) = .ok b) : ∃ a, x = .ok a ∧ f a = .ok b := by
  cases x with
  | error stop => contradiction
  | ok a => exact ⟨a, rfl, ok⟩

/-- Fields of other names are read as before where the fields of a name are left out. -/
theorem field?_filter_of_ne {name other : String} (different : name ≠ other)
    (fields : List (String × Json)) (decode : Decoder α) :
    field? (fields.filter fun field => field.1 ≠ other) name decode = field? fields name decode := by
  rw [field?, Json.lookup_filter_of_ne different, field?]

/-- A reader of one item that agrees with another one wherever that succeeds agrees with it on lists. -/
theorem map_eq_of_mapM {ε : Type} {strict : Json → Except ε α} {lenient : Json → α}
    (agrees : ∀ item a, strict item = .ok a → lenient item = a) {items : List Json} {as : List α}
    (read : items.mapM strict = .ok as) : items.map lenient = as := by
  induction items generalizing as with
  | nil => exact Except.ok.inj read
  | cons item rest ih =>
    rw [List.mapM_cons] at read
    obtain ⟨a, first, read⟩ := exists_ok_bind read
    obtain ⟨others, later, read⟩ := exists_ok_bind read
    rw [List.map_cons, agrees item a first, ih later]
    exact Except.ok.inj read

end Json.Decoder

namespace Message

/-- What is read as a message is taken as that message. -/
theorem ofStored_of_ofJson {item : Json} {m : Message} (read : ofJson item = .ok m) :
    ofStored item = m := by
  rw [ofStored, read]

/-- Whether an item has a form in which no message is written: it is neither a list nor an object, or
an object whose content is foreign. -/
def isUnwritten : Json → Bool
  | .obj fields => isForeign fields
  | .arr _ => false
  | _ => true

theorem ofStored_of_isUnwritten {item : Json} (unwritten : isUnwritten item = true) :
    ofStored item = (Event.ofFrame storedSource (.envelope item)).toMessage := by
  cases item with
  | obj fields => exact ofStored_of_isForeign unwritten
  | arr items => contradiction
  | _ => rfl

end Message

namespace Run

variable {now later : Timestamp} {text : String} {fields : List (String × Json)}

/-- Messages that are read all at once are read one by one. -/
theorem storedMessages_of_field? {messages : Option (List Message)}
    (read : field? fields "messages" (list Message.ofJson) = .ok messages) :
    storedMessages (lookup "messages" fields) = .ok (messages.getD []) := by
  unfold field? at read
  cases written : lookup "messages" fields with
  | none =>
    rw [written] at read
    cases read
    rfl
  | some value =>
    rw [written] at read
    cases value with
    | arr items =>
      obtain ⟨ms, each, read⟩ := exists_ok_bind read
      obtain rfl := Except.ok.inj read
      have same : items.map Message.ofStored = ms :=
        map_eq_of_mapM (fun _ _ => Message.ofStored_of_ofJson) each
      exact congrArg Except.ok same
    | _ => contradiction

/-- A run that is read from an object is read from it without its messages, and these by themselves. -/
theorem read_apart {r : Run} (later : Timestamp) (read : ofJson now (.obj fields) = .ok r)
    (given : givesCreation (.obj fields) = true) :
    ofJson later ((Json.obj fields).without "messages") = .ok { r with messages := [] } ∧
      storedMessages (lookup "messages" fields) = .ok r.messages := by
  obtain ⟨createdAt, createdAtRead, read⟩ := exists_ok_bind read
  obtain ⟨id, idRead, read⟩ := exists_ok_bind read
  obtain ⟨messages, messagesRead, read⟩ := exists_ok_bind read
  obtain ⟨sessionId, sessionIdRead, read⟩ := exists_ok_bind read
  obtain ⟨status, statusRead, read⟩ := exists_ok_bind read
  obtain ⟨task, taskRead, read⟩ := exists_ok_bind read
  obtain ⟨idThere, idGiven, read⟩ := exists_ok_bind read
  obtain ⟨sessionIdThere, sessionIdGiven, read⟩ := exists_ok_bind read
  obtain rfl := Except.ok.inj read
  refine ⟨?_, storedMessages_of_field? messagesRead⟩
  -- The time of creation is given, so it does not matter when the run is read.
  obtain ⟨time, rfl⟩ : ∃ time, createdAt = some time := by
    obtain ⟨value, written⟩ := Option.isSome_iff_exists.mp given
    rw [field?, written] at createdAtRead
    obtain ⟨time, -, same⟩ := exists_ok_bind createdAtRead
    exact ⟨time, (Except.ok.inj same).symm⟩
  rw [Json.without]
  generalize rest : (fields.filter fun field => field.1 ≠ "messages") = others
  have messagesLeft : field? others "messages" (list Message.ofJson) = .ok none :=
    field?_of_absent (rest ▸ Json.lookup_filter_self "messages" fields)
  have field?_eq {α : Type} {name : String} (decode : Json.Decoder α) (different : name ≠ "messages") :
      field? others name decode = field? fields name decode :=
    rest ▸ field?_filter_of_ne different fields decode
  simp [ofJson, record, field?_eq, createdAtRead, idRead, messagesLeft, sessionIdRead, statusRead,
    taskRead, idGiven, sessionIdGiven]

/-- Only the time of creation of a list may come from outside. -/
theorem ofJson_arr_of_givesCreation {items : List Json} (given : givesCreation (.arr items) = true) :
    ofJson later (.arr items) = ofJson now (.arr items) := by
  obtain ⟨time, written⟩ : ∃ time, items[5]? = some time :=
    ⟨_, List.getElem?_eq_getElem (of_decide_eq_true given)⟩
  have createdAt : itemOr items 5 timestamp later = itemOr items 5 timestamp now := by
    rw [itemOr, itemOr, written]
  simp only [ofJson, record, createdAt]

theorem ofText_of_parse {value : Json} (parsed : Json.parse text = .ok value) :
    ofText now text = (ofStored now value).mapError .wrongShape := by
  rw [ofText, parsed]
  rfl

/-- From an object a run is read as it stands. -/
theorem ofText_of_fields {r : Run} (parsed : Json.parse text = .ok (.obj fields))
    (read : ofJson now (.obj fields) = .ok r) (given : givesCreation (.obj fields) = true) :
    ofText later text = .ok r := by
  obtain ⟨rest, messages⟩ := read_apart later read given
  rw [ofText_of_parse parsed, ofStored, rest, Json.field?, messages]
  rfl

/-- From a list a run is read without its messages. -/
theorem ofText_of_list {items : List Json} {r : Run} (parsed : Json.parse text = .ok (.arr items))
    (read : ofJson now (.arr items) = .ok r) (given : givesCreation (.arr items) = true) :
    ofText later text = .ok { r with messages := [] } := by
  have untouched : (Json.arr items).without "messages" = .arr items := rfl
  rw [ofText_of_parse parsed, ofStored, untouched, ofJson_arr_of_givesCreation given, read]
  rfl

/-- A run that can be read as it stands, with the time of its creation, is read as that run but for its
messages, which are lost where the run is a list. -/
theorem ofText_of_ofJson {value : Json} {r : Run} (parsed : Json.parse text = .ok value)
    (read : ofJson now value = .ok r) (given : givesCreation value = true) :
    ofText later text =
        .ok { r with messages := if value.items?.isSome then [] else r.messages } ∧
      (ofText later text = .ok r ↔ value.fields?.isSome ∨ r.messages = []) := by
  cases value with
  | obj fields =>
    have whole : ofText later text = .ok r := ofText_of_fields parsed read given
    exact ⟨whole, by simp [whole, Json.fields?]⟩
  | arr items =>
    have emptied : ofText later text = .ok { r with messages := [] } :=
      ofText_of_list parsed read given
    refine ⟨emptied, ?_⟩
    rw [emptied, Except.ok.injEq]
    constructor
    · intro same
      exact .inr (congrArg Run.messages same).symm
    · rintro (impossible | empty)
      · contradiction
      · rw [← empty]
  | _ => contradiction

def ofOneMessage : Run where
  id := "r1"
  sessionId := "s1"
  task := "greet"
  status := .ready
  messages := [⟨some "m1", "agent", .text "Hello", none⟩]
  createdAt := .epoch

/-- The same run as the list of its fields. -/
def itemsOfOneMessage : List Json :=
  [.str "r1", .str "s1", .str "greet", .str "ready",
    .arr [.arr [.str "m1", .str "agent", .arr [.str "text", .str "Hello"]]], Timestamp.epoch.toJson]

theorem ofJson_itemsOfOneMessage : ofJson .epoch (.arr itemsOfOneMessage) = .ok ofOneMessage := by
  have createdAt : timestamp Timestamp.epoch.toJson = .ok .epoch := by
    simp [timestamp, Timestamp.toJson, Timestamp.read_text, Except.mapError]
  have messages : list Message.ofJson (.arr [.arr [.str "m1", .str "agent",
      .arr [.str "text", .str "Hello"]]]) = .ok ofOneMessage.messages := rfl
  simp [ofJson, record, itemsOfOneMessage, item, itemOr, createdAt, messages, ofOneMessage,
    Json.Decoder.text, Status.ofJson, Status.all, Status.name, variant, variantName, checkWidth]

theorem parse_itemsOfOneMessage :
    Json.parse (Json.arr itemsOfOneMessage).compact = .ok (.arr itemsOfOneMessage) := by
  have fits : (Json.arr itemsOfOneMessage).Fits := by
    simp [itemsOfOneMessage, Timestamp.toJson, Json.Fits, Json.FitsItems]
  have sorted : (Json.arr itemsOfOneMessage).sorted = .arr itemsOfOneMessage := rfl
  rw [Json.parse_compact fits (Json.readsBack_of_doubles_eq_nil rfl) (by decide +kernel), sorted]

theorem ofText_of_ofJson_listed :
    (Json.parse (Json.arr itemsOfOneMessage).compact = .ok (.arr itemsOfOneMessage) ∧
      ofJson .epoch (.arr itemsOfOneMessage) = .ok ofOneMessage ∧
      givesCreation (.arr itemsOfOneMessage) = true) ∧
    ofText .epoch (Json.arr itemsOfOneMessage).compact = .ok { ofOneMessage with messages := [] } :=
  ⟨⟨parse_itemsOfOneMessage, ofJson_itemsOfOneMessage, rfl⟩,
    (ofText_of_ofJson parse_itemsOfOneMessage ofJson_itemsOfOneMessage rfl).1⟩

/-- So the run that could be read is not always the one that is read. -/
theorem ofText_ne_of_listed :
    Json.parse (Json.arr itemsOfOneMessage).compact = .ok (.arr itemsOfOneMessage) ∧
      ofJson .epoch (.arr itemsOfOneMessage) = .ok ofOneMessage ∧
      givesCreation (.arr itemsOfOneMessage) = true ∧
      ofText .epoch (Json.arr itemsOfOneMessage).compact ≠ .ok ofOneMessage := by
  refine ⟨parse_itemsOfOneMessage, ofJson_itemsOfOneMessage, rfl, ?_⟩
  rw [ofText_of_list parse_itemsOfOneMessage ofJson_itemsOfOneMessage rfl]
  intro same
  exact absurd (congrArg Run.messages (Except.ok.inj same)) (List.cons_ne_nil _ _).symm

/-- Whatever is written under the messages of a run, nothing but its other fields can make it unreadable.
Each item is one message, in order: the message that is written, or an envelope where none is written. -/
theorem ofText_of_items {items : List Json} {run : Run}
    (parsed : Json.parse text = .ok (.obj fields))
    (written : lookup "messages" fields = some (.arr items))
    (read : ofJson now ((Json.obj fields).without "messages") = .ok run) :
    ∃ stored, ofText now text = .ok stored ∧ stored = { run with messages := stored.messages } ∧
      stored.messages.length = items.length ∧
      ∀ (index : Nat) (item : Json), items[index]? = some item →
        ∃ m, stored.messages[index]? = some m ∧
        (Message.isUnwritten item = true →
          m = (Event.ofFrame "assistant" (.envelope item)).toMessage) ∧
        ∀ message, Message.ofJson item = .ok message → m = message := by
  refine ⟨{ run with messages := items.map Message.ofStored }, ?_, rfl, ?_, ?_⟩
  · rw [ofText_of_parse parsed, ofStored, read, Json.field?, written]
    rfl
  · exact List.length_map _
  · intro index item there
    refine ⟨Message.ofStored item, ?_, Message.ofStored_of_isUnwritten, ?_⟩
    · simp [there]
    · exact fun _ => Message.ofStored_of_ofJson

/-- Items of four forms: no object, a list of calls as an envelope has it, a message, and a message in
the form of a list. -/
def mixedItems : List Json :=
  [.null,
    .obj [("content", .arr [.obj [("id", .str "c1"), ("name", .str "search")]])],
    .obj [("content", .obj [("data", .str "Hello"), ("kind", .str "text")]), ("source", .str "agent")],
    .arr [.null, .str "agent", .arr [.str "text", .str "Hello"]]]

def mixedFields : List (String × Json) :=
  [("id", .str "r1"), ("messages", .arr mixedItems), ("session_id", .str "s1")]

theorem ofText_of_items_mixed :
    (Json.parse (Json.obj mixedFields).compact = .ok (.obj mixedFields) ∧
      lookup "messages" mixedFields = some (.arr mixedItems) ∧
      ofJson .epoch ((Json.obj mixedFields).without "messages") = .ok (.start "r1" "s1" "" .epoch) ∧
      mixedItems.map Message.isUnwritten = [true, true, false, false]) ∧
    ∃ stored, ofText .epoch (Json.obj mixedFields).compact = .ok stored ∧
      stored.messages.length = 4 ∧
      stored.messages[1]? =
        some (Message.mk none "assistant" (.toolCalls [⟨"c1", "search", ""⟩]) none) ∧
      stored.messages[2]? = some (Message.text "agent" "Hello") := by
  have fits : (Json.obj mixedFields).Fits := by
    simp [mixedFields, mixedItems, Json.Fits, Json.FitsItems, Json.FitsFields, Json.FitsField]
  have sorted : (Json.obj mixedFields).sorted = .obj mixedFields := by decide +kernel
  have parsed : Json.parse (Json.obj mixedFields).compact = .ok (.obj mixedFields) := by
    rw [Json.parse_compact fits (Json.readsBack_of_doubles_eq_nil rfl) (by decide +kernel), sorted]
  have read : ofJson .epoch ((Json.obj mixedFields).without "messages") =
      .ok (.start "r1" "s1" "" .epoch) := rfl
  obtain ⟨stored, ok, -, count, each⟩ := ofText_of_items parsed rfl read
  obtain ⟨calls, second, envelope, -⟩ := each 1 _ rfl
  obtain ⟨message, third, -, whole⟩ := each 2 _ rfl
  refine ⟨⟨parsed, rfl, read, rfl⟩, stored, ok, count, ?_, ?_⟩
  · rw [second, envelope rfl]
    decide +kernel
  · rw [third, whole (.text "agent" "Hello") rfl]

end Run

end Transcript
