import Transcript.Message.Decode
import Transcript.Message.Encode
import Transcript.Proofs.Json.Sorted

/-! # Written records are read back

Every record of a message, written and then given with its fields sorted to the decoder of its kind,
is the record again. What a record carries as it is has to be sorted already (`Content.payloads`).

The shapes overlap, so the other direction is needed too: a decoder of calls misses the id in any
other record that is written in a list, and a decoder of results misses the call in a memory.
-/

namespace Transcript

open Json (lookup)

namespace Json.Decoder

variable {α β : Type} {fields : List (String × Json)} {name : String} {decode : Decoder α}

@[simp] theorem ok_bind {ε : Type} (a : α) (f : α → Except ε β) : (Except.ok a >>= f) = f a := rfl

@[simp] theorem error_bind {ε : Type} (e : ε) (f : α → Except ε β) :
    (Except.error e >>= f) = .error e := rfl

@[simp] theorem map_ok {ε : Type} (f : α → β) (a : α) :
    (f <$> (Except.ok a : Except ε α)) = .ok (f a) := rfl

@[simp] theorem pure_eq_ok {ε : Type} (a : α) : (pure a : Except ε α) = .ok a := rfl

@[simp] theorem required_some (a : α) : required name (some a) = .ok a := rfl

@[simp] theorem required_none :
    (required name none : Except ShapeError α) = .error (.missingField name) := rfl

theorem field?_of_lookup (value : Json) {a : α} (written : lookup name fields = some value)
    (reads : decode value = .ok a) : field? fields name decode = .ok (some a) := by
  simp [field?, written, reads]

theorem field?_of_absent (absent : lookup name fields = none) :
    field? fields name decode = .ok none := by
  simp [field?, absent]

/-- A field that is written only if there is something to write, and then not as `null`. -/
theorem field?_optional (encode : α → Json) {a : Option α}
    (written : lookup name fields = a.map encode) (nonnull : ∀ x, encode x ≠ .null)
    (reads : ∀ x, decode (encode x) = .ok x) :
    field? fields name (optional decode) = .ok (a.map some) := by
  cases a with
  | none => exact field?_of_absent written
  | some x =>
    refine field?_of_lookup (encode x) written ?_
    unfold optional
    split
    · next null => exact absurd null (nonnull x)
    · rw [reads x, map_ok]

@[simp] theorem join_map_some (a : Option α) : (a.map some).join = a := by
  cases a <;> rfl

theorem list_sorted_eq_ok {encode : α → Json} {as : List α}
    (reads : ∀ a ∈ as, decode (encode a).sorted = .ok a) :
    list decode (Json.arr (as.map encode)).sorted = .ok as := by
  rw [sorted_arr, list_arr]
  induction as with
  | nil => rfl
  | cons a rest ih =>
    have first := reads a List.mem_cons_self
    have others := ih fun b member => reads b (List.mem_cons_of_mem a member)
    rw [List.map_cons, List.map_cons, List.mapM_cons, first, others, ok_bind, ok_bind, pure_eq_ok]

theorem list_any_arr (items : List Json) : list any (.arr items) = .ok items := by
  rw [list_arr]
  exact (List.mapM_pure (f := id)).trans (by simp)

theorem natural_ofUInt64 (n : UInt64) : natural (ofUInt64 n) = .ok n := by
  have bound := n.toNat_lt_size
  simp only [ofUInt64, ofNat, natural]
  rw [if_pos ⟨by omega, by omega⟩]
  simp

end Json.Decoder

open Json.Decoder

variable (held : Bool)

/-! ## The records of a content -/

theorem ToolCall.ofJson_toJson (c : ToolCall) : ToolCall.ofJson held c.toJson.sorted = .ok c := by
  obtain ⟨fields, written, holds⟩ := Json.exists_sorted_obj
    [("id", .str c.id), ("name", .str c.name), ("arguments", .str c.arguments)]
  have arguments : field? fields "arguments" anyText = .ok (some c.arguments) :=
    field?_of_lookup (.str c.arguments) (by simp [holds, lookup]) rfl
  have id : field? fields "id" text = .ok (some c.id) :=
    field?_of_lookup (.str c.id) (by simp [holds, lookup]) rfl
  have name : field? fields "name" text = .ok (some c.name) :=
    field?_of_lookup (.str c.name) (by simp [holds, lookup]) rfl
  rw [toJson, written]
  simp [ToolCall.ofJson, record, arguments, id, name]

theorem ToolResult.ofJson_toJson (r : ToolResult) :
    ToolResult.ofJson held r.toJson.sorted = .ok r := by
  obtain ⟨fields, written, holds⟩ := Json.exists_sorted_obj
    ([("call_id", .str r.callId), ("content", .str r.content)]
      ++ Json.optionalField "is_error" .bool r.isError ++ Json.optionalField "name" .str r.name)
  have callId : field? fields "call_id" text = .ok (some r.callId) :=
    field?_of_lookup (.str r.callId) (by simp [holds, lookup]) rfl
  have content : field? fields "content" anyText = .ok (some r.content) :=
    field?_of_lookup (.str r.content) (by simp [holds, lookup]) rfl
  have isError : field? fields "is_error" (optional truth) = .ok (r.isError.map some) :=
    field?_optional .bool (by simp [holds, lookup, Function.comp_def]) (by simp) fun _ => rfl
  have name : field? fields "name" (optional text) = .ok (r.name.map some) :=
    field?_optional .str (by simp [holds, lookup, Function.comp_def]) (by simp) fun _ => rfl
  rw [toJson, written]
  simp [ToolResult.ofJson, record, callId, content, isError, name]

theorem TaskSummary.ofJson_toJson {s : TaskSummary} (sorted : ∀ v ∈ s.messages, v.sorted = v) :
    TaskSummary.ofJson held s.toJson.sorted = .ok s := by
  obtain ⟨fields, written, holds⟩ := Json.exists_sorted_obj
    ([("messages", .arr s.messages)] ++ Json.optionalField "stop_reason" .str s.stopReason
      ++ Json.optionalField "duration" (fun x => .num (.float x)) s.duration)
  have duration : field? fields "duration" (optional double) = .ok (s.duration.map some) :=
    field?_optional (fun x => .num (.float x)) (by simp [holds, lookup, Function.comp_def])
      (by simp) fun _ => rfl
  have same : s.messages.map Json.sorted = s.messages := by
    simpa using List.map_congr_left sorted
  have messages : field? fields "messages" (list any) = .ok (some s.messages) :=
    field?_of_lookup (.arr s.messages) (by simp [holds, lookup, same]) (list_any_arr s.messages)
  have stopReason : field? fields "stop_reason" (optional text) = .ok (s.stopReason.map some) :=
    field?_optional .str (by simp [holds, lookup, Function.comp_def]) (by simp) fun _ => rfl
  rw [toJson, written]
  simp [TaskSummary.ofJson, record, duration, messages, stopReason]

theorem Memory.ofJson_toJson {m : Memory} (sorted : m.content.sorted = m.content) :
    Memory.ofJson held m.toJson.sorted = .ok m := by
  obtain ⟨fields, written, holds⟩ := Json.exists_sorted_obj
    [("content", m.content), ("mime_type", .str m.mimeType)]
  have content : field? fields "content" any = .ok (some m.content) :=
    field?_of_lookup m.content (by simp [holds, lookup, sorted]) rfl
  have mimeType : field? fields "mime_type" text = .ok (some m.mimeType) :=
    field?_of_lookup (.str m.mimeType) (by simp [holds, lookup]) rfl
  rw [toJson, written]
  simp [Memory.ofJson, record, content, mimeType]

/-! ## Records of another kind -/

theorem ToolCall.ofJson_toolResult (r : ToolResult) :
    ToolCall.ofJson held r.toJson.sorted = .error (.missingField "id") := by
  obtain ⟨fields, written, holds⟩ := Json.exists_sorted_obj
    ([("call_id", .str r.callId), ("content", .str r.content)]
      ++ Json.optionalField "is_error" .bool r.isError ++ Json.optionalField "name" .str r.name)
  have arguments : field? fields "arguments" anyText = .ok none :=
    field?_of_absent (by simp [holds, lookup])
  have id : field? fields "id" text = .ok none := field?_of_absent (by simp [holds, lookup])
  obtain ⟨name, named⟩ : ∃ name, field? fields "name" text = .ok name := by
    cases stored : r.name with
    | none => exact ⟨none, field?_of_absent (by simp [holds, lookup, stored])⟩
    | some name =>
      exact ⟨some name, field?_of_lookup (.str name) (by simp [holds, lookup, stored]) rfl⟩
  rw [ToolResult.toJson, written]
  simp [ToolCall.ofJson, record, arguments, id, named]

theorem ToolCall.ofJson_memory (m : Memory) :
    ToolCall.ofJson held m.toJson.sorted = .error (.missingField "id") := by
  obtain ⟨fields, written, holds⟩ := Json.exists_sorted_obj
    [("content", m.content), ("mime_type", .str m.mimeType)]
  have arguments : field? fields "arguments" anyText = .ok none :=
    field?_of_absent (by simp [holds, lookup])
  have id : field? fields "id" text = .ok none := field?_of_absent (by simp [holds, lookup])
  have name : field? fields "name" text = .ok none := field?_of_absent (by simp [holds, lookup])
  rw [Memory.toJson, written]
  simp [ToolCall.ofJson, record, arguments, id, name]

theorem ToolResult.ofJson_memory (m : Memory) :
    ToolResult.ofJson held m.toJson.sorted = .error (.missingField "call_id") := by
  obtain ⟨fields, written, holds⟩ := Json.exists_sorted_obj
    [("content", m.content), ("mime_type", .str m.mimeType)]
  have callId : field? fields "call_id" text = .ok none :=
    field?_of_absent (by simp [holds, lookup])
  obtain ⟨s, reads⟩ := anyText_ok m.content.sorted
  have content : field? fields "content" anyText = .ok (some s) :=
    field?_of_lookup m.content.sorted (by simp [holds, lookup]) reads
  have isError : field? fields "is_error" (optional truth) = .ok none :=
    field?_of_absent (by simp [holds, lookup])
  have name : field? fields "name" (optional text) = .ok none :=
    field?_of_absent (by simp [holds, lookup])
  rw [Memory.toJson, written]
  simp [ToolResult.ofJson, record, callId, content, isError, name]

/-! ## Contents and messages -/

theorem Usage.ofJson_toJson (u : Usage) : Usage.ofJson u.toJson.sorted = .ok u := by
  obtain ⟨fields, written, holds⟩ := Json.exists_sorted_obj
    [("prompt_tokens", .ofUInt64 u.promptTokens),
      ("completion_tokens", .ofUInt64 u.completionTokens)]
  have promptTokens : field? fields "prompt_tokens" natural = .ok (some u.promptTokens) :=
    field?_of_lookup (.ofUInt64 u.promptTokens)
      (by simp [holds, lookup, Json.ofUInt64, Json.ofNat]) (natural_ofUInt64 _)
  have completionTokens :
      field? fields "completion_tokens" natural = .ok (some u.completionTokens) :=
    field?_of_lookup (.ofUInt64 u.completionTokens)
      (by simp [holds, lookup, Json.ofUInt64, Json.ofNat]) (natural_ofUInt64 _)
  rw [toJson, written]
  simp [Usage.ofJson, record, promptTokens, completionTokens]

/-- The values that a content carries as they are. -/
def Content.payloads : Content → List Json
  | .taskSummary summary => summary.messages
  | .memories entries => entries.map Memory.content
  | .other payload => [payload]
  | .text _ | .toolCalls _ | .toolResults _ | .modelTrace _ | .error _ => []

theorem Content.ofData_data {c : Content} (sorted : ∀ v ∈ c.payloads, v.sorted = v) :
    Content.ofData held c.data.sorted c.kind = .ok c := by
  cases c with
  | text s | modelTrace s | error s => simp [ofData, data, kind, Json.Decoder.text]
  | toolCalls calls =>
    have reads := list_sorted_eq_ok fun c (_ : c ∈ calls) => ToolCall.ofJson_toJson held c
    rw [kind, data, ofData, reads, map_ok]
  | toolResults results =>
    have reads := list_sorted_eq_ok fun r (_ : r ∈ results) => ToolResult.ofJson_toJson held r
    rw [kind, data, ofData, reads, map_ok]
  | taskSummary summary =>
    rw [kind, data, ofData, TaskSummary.ofJson_toJson held sorted, map_ok]
  | memories entries =>
    have reads := list_sorted_eq_ok fun m (member : m ∈ entries) =>
      Memory.ofJson_toJson held (sorted m.content (List.mem_map_of_mem member))
    rw [kind, data, ofData, reads, map_ok]
  | other payload => rw [kind, data, ofData, sorted payload (List.mem_singleton_self payload)]

theorem Content.ofJson_toJson {c : Content} (sorted : ∀ v ∈ c.payloads, v.sorted = v) :
    Content.ofJson c.toJson.sorted = .ok c := by
  obtain ⟨fields, written, holds⟩ :=
    Json.exists_sorted_obj [("kind", .str c.kind.name), ("data", c.data)]
  have kind : field? fields "kind" (variant kindNames) = .ok (some c.kind) :=
    field?_of_lookup (.str c.kind.name) (by simp [holds, lookup]) (by cases c.kind <;> rfl)
  have data : field? fields "data" any = .ok (some c.data.sorted) :=
    field?_of_lookup c.data.sorted (by simp [holds, lookup]) rfl
  rw [toJson, written]
  simp [Content.ofJson, kind, data, ofData_data true sorted]

/-- A message that was written is read as that message. -/
theorem Message.ofJson_toJson {m : Message} (sorted : ∀ v ∈ m.content.payloads, v.sorted = v) :
    Message.ofJson m.toJson.sorted = .ok m := by
  obtain ⟨fields, written, holds⟩ := Json.exists_sorted_obj m.fields
  have content : field? fields "content" Content.ofJson = .ok (some m.content) :=
    field?_of_lookup m.content.toJson.sorted (by simp [holds, lookup, Message.fields])
      (Content.ofJson_toJson sorted)
  have id : field? fields "id" (optional Json.Decoder.text) = .ok (m.id.map some) :=
    field?_optional .str (by simp [holds, lookup, Message.fields, Function.comp_def])
      (by simp) fun _ => rfl
  have usage : field? fields "models_usage" (optional Usage.ofJson) = .ok (m.usage.map some) :=
    field?_optional (fun u => u.toJson.sorted)
      (by simp [holds, lookup, Message.fields, Function.comp_def])
      (fun u null => by
        obtain ⟨_, written, _⟩ := Json.exists_sorted_obj
          [("prompt_tokens", .ofUInt64 u.promptTokens),
            ("completion_tokens", .ofUInt64 u.completionTokens)]
        rw [Usage.toJson, written] at null
        cases null)
      Usage.ofJson_toJson
  have source : field? fields "source" Json.Decoder.text = .ok (some m.source) :=
    field?_of_lookup (.str m.source) (by simp [holds, lookup, Message.fields]) rfl
  rw [toJson, written]
  simp [Message.ofJson, record, content, id, usage, source]

end Transcript
