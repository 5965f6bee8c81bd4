import Transcript.Proofs.Json.RoundTrip
import Transcript.Proofs.Message.Written
import Transcript.Proofs.Time.RoundTrip
import Transcript.Storage.RunDirectory
import Transcript.Text.Utf8.RoundTrip

/-! # A stored run is read back

A run that was written to its file is fetched as that run (`RunDirectory.fetchRun_eq_ok`), provided
that the reader finds its doubles again: the durations, and those of payloads that are any JSON. Its
messages are taken out of the file before the rest of the run is read and then decoded one by one,
and every one of them is accepted as a message, so none is taken for an envelope.

What a message carries as it is can be any value that can have been read (`Json.Proper`), also one
that looks like a message or an envelope.
-/

namespace Transcript

open Json (lookup)
open Json.Decoder

/-- A value that can have been read. -/
structure Json.Proper (v : Json) : Prop where
  sorted : v.sorted = v
  fits : v.Fits

/-! ## Numbers of written records fit -/

namespace Json

theorem fits_ofUInt64 (n : UInt64) : (ofUInt64 n).Fits := by
  have bound := n.toNat_lt_size
  simp only [ofUInt64, ofNat, Fits, Number.Fits]
  omega

@[simp] theorem fitsFields_append (front back : List (String × Json)) :
    FitsFields (front ++ back) ↔ FitsFields front ∧ FitsFields back := by
  induction front with
  | nil => simp [FitsFields]
  | cons field rest ih => simp [FitsFields, ih, and_assoc]

@[simp] theorem fitsFields_optionalField {α : Type} (name : String) (toJson : α → Json)
    (a : Option α) : FitsFields (optionalField name toJson a) ↔ ∀ x ∈ a, (toJson x).Fits := by
  cases a <;> simp [optionalField, FitsFields, FitsField]

theorem fits_arr_map {α : Type} {toJson : α → Json} {as : List α}
    (fits : ∀ a ∈ as, (toJson a).Fits) : (Json.arr (as.map toJson)).Fits := by
  simpa [fits_arr] using fits

end Json

open Json (Fits FitsFields FitsField)

theorem ToolCall.fits_toJson (c : ToolCall) : c.toJson.Fits := by
  simp [toJson, Fits, FitsFields, FitsField]

theorem ToolResult.fits_toJson (r : ToolResult) : r.toJson.Fits := by
  simp [toJson, Fits, FitsFields, FitsField]

theorem TaskSummary.fits_toJson {s : TaskSummary} (fits : ∀ v ∈ s.messages, v.Fits) :
    s.toJson.Fits := by
  have messages := (Json.fits_arr s.messages).mpr fits
  simp [toJson, Fits, FitsFields, FitsField, Json.Number.Fits] at messages ⊢
  exact messages

theorem Memory.fits_toJson {m : Memory} (fits : m.content.Fits) : m.toJson.Fits := by
  simpa [toJson, Fits, FitsFields, FitsField] using fits

theorem Usage.fits_toJson (u : Usage) : u.toJson.Fits := by
  have prompt := Json.fits_ofUInt64 u.promptTokens
  have completion := Json.fits_ofUInt64 u.completionTokens
  simp [toJson, Fits, FitsFields, FitsField, prompt, completion]

theorem Content.fits_data {c : Content} (fits : ∀ v ∈ c.payloads, v.Fits) : c.data.Fits := by
  cases c with
  | text s | modelTrace s | error s => simp [data, Fits]
  | toolCalls calls => exact Json.fits_arr_map fun c _ => c.fits_toJson
  | toolResults results => exact Json.fits_arr_map fun r _ => r.fits_toJson
  | taskSummary summary => exact TaskSummary.fits_toJson fits
  | memories entries =>
    exact Json.fits_arr_map fun m member =>
      Memory.fits_toJson (fits m.content (List.mem_map_of_mem member))
  | other payload => exact fits payload (List.mem_singleton_self payload)

theorem Message.fits_toJson {m : Message} (fits : ∀ v ∈ m.content.payloads, v.Fits) :
    m.toJson.Fits := by
  have data := Content.fits_data fits
  simp [toJson, fields, Content.toJson, Fits, FitsFields, FitsField, data, Usage.fits_toJson]

theorem Run.fits_toJson {r : Run} (fits : ∀ m ∈ r.messages, ∀ v ∈ m.content.payloads, v.Fits) :
    r.toJson.Fits := by
  have messages : (Json.arr (r.messages.map Message.toJson)).Fits :=
    Json.fits_arr_map fun m member => Message.fits_toJson (fits m member)
  simp [toJson, leadingFields, Fits, FitsFields, FitsField, Status.toJson, Timestamp.toJson]
    at messages ⊢
  exact messages

/-! ## The run without its messages -/

theorem Json.lookup_filter_self (name : String) (fields : List (String × Json)) :
    lookup name (fields.filter fun field => field.1 ≠ name) = none := by
  induction fields with
  | nil => rfl
  | cons field rest ih =>
    obtain ⟨k, v⟩ := field
    by_cases same : k = name <;> simp_all [lookup]

theorem Json.lookup_filter_of_ne {name other : String} (different : name ≠ other)
    (fields : List (String × Json)) :
    lookup name (fields.filter fun field => field.1 ≠ other) = lookup name fields := by
  induction fields with
  | nil => rfl
  | cons field rest ih =>
    obtain ⟨k, v⟩ := field
    by_cases dropped : k = other
    · have other_ne : other ≠ name := different.symm
      simp_all [lookup]
    · by_cases same : k = name <;> simp_all [lookup]

namespace Run

/-- What a run that was written is read as without its messages. -/
theorem ofJson_without_messages (now : Timestamp) (r : Run) :
    ofJson now (r.toJson.sorted.without "messages") = .ok { r with messages := [] } := by
  obtain ⟨inner, written, holds⟩ :=
    Json.exists_sorted_obj (r.leadingFields ++ [("created_at", r.createdAt.toJson)])
  generalize rest : (inner.filter fun field => field.1 ≠ "messages") = others
  have messages : field? others "messages" (list Message.ofJson) = .ok none :=
    field?_of_absent (rest ▸ Json.lookup_filter_self "messages" inner)
  have lookup_eq {name : String} (different : name ≠ "messages") :
      lookup name others = lookup name inner := rest ▸ Json.lookup_filter_of_ne different inner
  have createdAt : field? others "created_at" timestamp = .ok (some r.createdAt) :=
    field?_of_lookup (.str r.createdAt.text)
      (by simp [lookup_eq, holds, leadingFields, lookup, Timestamp.toJson])
      (by simp [timestamp, Timestamp.read_text, Except.mapError])
  have id : field? others "id" text = .ok (some r.id) :=
    field?_of_lookup (.str r.id) (by simp [lookup_eq, holds, leadingFields, lookup]) rfl
  have sessionId : field? others "session_id" text = .ok (some r.sessionId) :=
    field?_of_lookup (.str r.sessionId) (by simp [lookup_eq, holds, leadingFields, lookup]) rfl
  have status : field? others "status" Status.ofJson = .ok (some r.status) :=
    field?_of_lookup r.status.toJson
      (by simp [lookup_eq, holds, leadingFields, lookup, Status.toJson]) (Status.ofJson_toJson _)
  have task : field? others "task" text = .ok (some r.task) :=
    field?_of_lookup (.str r.task) (by simp [lookup_eq, holds, leadingFields, lookup]) rfl
  rw [toJson, written, Json.without, rest]
  simp [ofJson, record, createdAt, id, messages, sessionId, status, task]

/-- The items under the messages of a run that was written. -/
theorem field?_messages (r : Run) : r.toJson.sorted.field? "messages" =
    some (.arr (r.messages.map fun m => m.toJson.sorted)) := by
  obtain ⟨inner, written, holds⟩ :=
    Json.exists_sorted_obj (r.leadingFields ++ [("created_at", r.createdAt.toJson)])
  rw [toJson, written, Json.field?, holds]
  simp [leadingFields, lookup, Function.comp_def]

theorem ofStored_toJson (now : Timestamp) {r : Run}
    (sorted : ∀ m ∈ r.messages, ∀ v ∈ m.content.payloads, v.sorted = v) :
    ofStored now r.toJson.sorted = .ok r := by
  have same : (r.messages.map fun m => Message.ofStored m.toJson.sorted) = r.messages := by
    have each : ∀ m ∈ r.messages, Message.ofStored m.toJson.sorted = m := fun m member => by
      rw [Message.ofStored, Message.ofJson_toJson (sorted m member)]
    simpa using List.map_congr_left each
  simp [ofStored, ofJson_without_messages, field?_messages, storedMessages, Function.comp_def, same]

end Run

/-- A run that was written to its file is fetched as that run, and each of its messages was read as
a message. The reader is relied on to find every double of the text again. -/
theorem RunDirectory.fetchRun_eq_ok {d : RunDirectory} {runId : String} {r : Run} (now : Timestamp)
    (proper : ∀ m ∈ r.messages, ∀ v ∈ m.content.payloads, v.Proper)
    (exact : ∀ x ∈ r.toJson.doubles, x.ReadsBack) (nested : r.toJson.depth ≤ 127)
    (stored : d.content runId "json" = .bytes (Text.Utf8.encode r.toJson.compact.toList)) :
    d.fetchRun now runId = .ok r ∧
      ∃ value items, Json.parse r.toJson.compact = .ok value ∧
        value.field? "messages" = some (.arr items) ∧
        items.map Message.ofJson = r.messages.map .ok := by
  have sorted : ∀ m ∈ r.messages, ∀ v ∈ m.content.payloads, v.sorted = v :=
    fun m member v carried => (proper m member v carried).sorted
  have parsed : Json.parse r.toJson.compact = .ok r.toJson.sorted :=
    Json.parse_compact
      (Run.fits_toJson fun m member v carried => (proper m member v carried).fits) exact nested
  constructor
  · simp only [fetchRun, stored, Text.Utf8.decode_encode, String.ofList_toList]
    simp [Run.ofText, parsed, Run.ofStored_toJson now sorted, Except.mapError]
  · refine ⟨_, _, parsed, r.field?_messages, ?_⟩
    rw [List.map_map]
    exact List.map_congr_left fun m member => Message.ofJson_toJson (sorted m member)

/-- A run with a summary that took 2.5 seconds and a payload that looks like an envelope. -/
def Run.lookalike : Run where
  id := "r1"
  sessionId := "s1"
  task := "say \"hi\""
  status := .awaitingInput
  messages :=
    [⟨some "m1", "team", .taskSummary ⟨[.num (.int (-3))], none,
      some ⟨false, 5629499534213120, -51, by decide⟩⟩, none⟩,
      ⟨none, "user", .other (.obj [("content", .str "hi"), ("source", .str "user")]), some ⟨1, 2⟩⟩]
  createdAt := .epoch

theorem RunDirectory.fetchRun_lookalike :
    ((∀ m ∈ Run.lookalike.messages, ∀ v ∈ m.content.payloads, v.Proper) ∧
      (∀ x ∈ Run.lookalike.toJson.doubles, x.ReadsBack) ∧ Run.lookalike.toJson.depth ≤ 127) ∧
    (RunDirectory.mk fun _ => .bytes
      (Text.Utf8.encode Run.lookalike.toJson.compact.toList)).fetchRun .epoch "r1" =
        .ok Run.lookalike := by
  have proper : ∀ m ∈ Run.lookalike.messages, ∀ v ∈ m.content.payloads, v.Proper := by
    simp only [Run.lookalike, List.forall_mem_cons, Content.payloads, List.not_mem_nil,
      false_implies, implies_true, and_true]
    exact ⟨⟨rfl, by simp [Json.Fits, Json.Number.Fits]⟩,
      ⟨by decide +kernel, by simp [Json.Fits, Json.FitsFields, Json.FitsField]⟩⟩
  have exact : ∀ x ∈ Run.lookalike.toJson.doubles, x.ReadsBack := by
    have duration : Run.lookalike.toJson.doubles = [⟨false, 5629499534213120, -51, by decide⟩] := rfl
    rw [duration, List.forall_mem_singleton]
    exact Binary64.readsBack_of_few_digits (by decide +kernel) (by decide +kernel)
  have nested : Run.lookalike.toJson.depth ≤ 127 := by decide +kernel
  exact ⟨⟨proper, exact, nested⟩, (RunDirectory.fetchRun_eq_ok .epoch proper exact nested rfl).1⟩

end Transcript
