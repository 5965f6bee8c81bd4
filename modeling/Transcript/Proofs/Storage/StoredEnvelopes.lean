import Transcript.Proofs.Json.RoundTrip
import Transcript.Proofs.Message.Written
import Transcript.Proofs.Storage.LogLines
import Transcript.Proofs.Stream.FrameText
import Transcript.Storage.RunDirectory
import Transcript.Text.Utf8.RoundTrip

/-! # Envelopes in a stored run and in a log

An object whose content is not in the form in which contents are written is no message
(`Message.ofJson_of_isForeign`), so in a stored run it is an envelope (`fetchRun_of_stores`), as it is
on a line of a log (`Frame.map_ofText_of_parse`).
-/

namespace Transcript

open Json (lookup)
open Json.Decoder

namespace Json.Decoder

variable {α β : Type} {fields : List (String × Json)} {name : String} {decode : Decoder α}

/-- What fails in a later step fails. -/
theorem exists_error_bind {ε : Type} {x : Except ε α} {f : α → Except ε β}
    (later : ∀ a, x = .ok a → ∃ stop, f a = .error stop) : ∃ stop, (x >>= f) = .error stop := by
  cases x with
  | error stop => exact ⟨stop, rfl⟩
  | ok a => exact later a rfl

/-- A field that has to be there is there. -/
theorem lookup_of_required {read : Option α} {a : α} (ok : field? fields name decode = .ok read)
    (there : required name read = .ok a) : (lookup name fields).isSome = true := by
  rw [← Bool.not_eq_false, Option.isSome_eq_false_iff, Option.isNone_iff_eq_none]
  intro absent
  obtain rfl := Except.ok.inj ((field?_of_absent absent).symm.trans ok)
  contradiction

end Json.Decoder

/-- Whether a content is not in the form in which contents are written: an object that lacks its kind
or its data, a list that does not start with the name of a kind, or no object and no list. -/
def Content.isForeign : Json → Bool
  | .obj fields => (lookup "kind" fields).isNone || (lookup "data" fields).isNone
  | .arr items => items.head?.all fun first => first.string?.isNone
  | _ => true

theorem Content.ofJson_of_isForeign {value : Json} (foreign : isForeign value = true) :
    ∃ stop, ofJson value = .error stop := by
  cases value with
  | obj fields =>
    apply exists_error_bind
    intro kind? kindRead
    apply exists_error_bind
    intro kind kindThere
    apply exists_error_bind
    intro data? dataRead
    apply exists_error_bind
    intro data dataThere
    have kind := lookup_of_required kindRead kindThere
    have data := lookup_of_required dataRead dataThere
    rw [isForeign, Bool.or_eq_true] at foreign
    rcases foreign with absent | absent
    · rw [Option.isNone_iff_eq_none.mp absent] at kind
      contradiction
    · rw [Option.isNone_iff_eq_none.mp absent] at data
      contradiction
  | arr items =>
    cases items with
    | nil => exact ⟨_, rfl⟩
    | cons first rest =>
      have unnamed : first.string? = none := by simpa [isForeign] using foreign
      cases first with
      | str name => contradiction
      | _ => exact ⟨_, rfl⟩
  | _ => exact ⟨_, rfl⟩

/-- Whether the content of an object is foreign, or missing. -/
def Message.isForeign (fields : List (String × Json)) : Bool :=
  (lookup "content" fields).all Content.isForeign

theorem Message.ofJson_of_isForeign {fields : List (String × Json)}
    (foreign : isForeign fields = true) : ∃ stop, ofJson (.obj fields) = .error stop := by
  apply exists_error_bind
  intro content? contentRead
  apply exists_error_bind
  intro id idRead
  apply exists_error_bind
  intro usage usageRead
  apply exists_error_bind
  intro source? sourceRead
  apply exists_error_bind
  intro source sourceThere
  apply exists_error_bind
  intro content contentThere
  obtain ⟨value, written⟩ :=
    Option.isSome_iff_exists.mp (lookup_of_required contentRead contentThere)
  rw [isForeign, written] at foreign
  obtain ⟨stop, refused⟩ := Content.ofJson_of_isForeign foreign
  simp [field?, written, refused] at contentRead

/-- In a stored run such an object is an envelope. -/
theorem Message.ofStored_of_isForeign {fields : List (String × Json)}
    (foreign : isForeign fields = true) :
    ofStored (.obj fields) = (Event.ofValue storedSource (.obj fields)).toMessage := by
  obtain ⟨stop, refused⟩ := ofJson_of_isForeign foreign
  rw [ofStored, refused]

namespace RunDirectory

variable {d : RunDirectory} {now : Timestamp} {runId : String}
  {envelopes : List (List (String × Json))}

/-- Whether the stored run of an id can be read, and has these envelopes for its messages. -/
def Stores (d : RunDirectory) (now : Timestamp) (runId : String)
    (envelopes : List (List (String × Json))) : Prop :=
  ∃ bytes text value run, d.content runId "json" = .bytes bytes ∧
    Text.Utf8.decode bytes = .ok text ∧ Json.parse text = .ok value ∧
    value.field? "messages" = some (.arr (envelopes.map .obj)) ∧
    Run.ofJson now (value.without "messages") = .ok run

/-- Whether the log of a run holds these envelopes, one on a line. -/
def Logs (d : RunDirectory) (runId : String) (envelopes : List (List (String × Json))) : Prop :=
  ∃ bytes lines, d.content runId "jsonl" = .bytes bytes ∧ RunLog.Holds bytes lines ∧
    lines.map Json.parse = envelopes.map fun fields => .ok (.obj fields)

/-- A stored run of envelopes has the messages that they mean from the stored source. -/
theorem fetchRun_of_stores (stores : d.Stores now runId envelopes)
    (foreign : ∀ fields ∈ envelopes, Message.isForeign fields = true) :
    ∃ run, d.fetchRun now runId = .ok run ∧ run.messages = envelopes.map fun fields =>
      (Event.ofValue Message.storedSource (.obj fields)).toMessage := by
  obtain ⟨bytes, text, value, run, file, decoded, parsed, items, read⟩ := stores
  let whole := { run with messages := (envelopes.map Json.obj).map Message.ofStored }
  have stored : Run.ofStored now value = .ok whole := by
    rw [Run.ofStored, read, items]
    rfl
  refine ⟨whole, ?_, ?_⟩
  · simp only [fetchRun, file, decoded, Run.ofText, parsed, ok_bind, stored, Except.mapError]
  · change (envelopes.map Json.obj).map Message.ofStored = _
    rw [List.map_map]
    exact List.map_congr_left fun fields member =>
      Message.ofStored_of_isForeign (foreign fields member)

end RunDirectory

/-- The frames of lines that are objects are these envelopes. -/
theorem Frame.map_ofText_of_parse {lines : List String} {envelopes : List (List (String × Json))}
    (parsed : lines.map Json.parse = envelopes.map fun fields => .ok (.obj fields)) :
    (lines.filter fun line => !Text.isAllBlank line).map Frame.ofText =
      envelopes.map fun fields => .envelope (.obj fields) := by
  induction lines generalizing envelopes with
  | nil =>
    obtain rfl := List.map_eq_nil_iff.mp parsed.symm
    rfl
  | cons line rest ih =>
    cases envelopes with
    | nil => contradiction
    | cons fields others =>
      obtain ⟨here, later⟩ := List.cons.inj parsed
      rw [List.filter_cons_of_pos (by simp [isAllBlank_of_parse here]), List.map_cons, List.map_cons,
        ofText_of_parse here, ih later]

/-! ## Envelopes that are written both ways -/

namespace RunDirectory

/-- A stored run with these envelopes for its messages. -/
def runOfEnvelopes (envelopes : List (List (String × Json))) : Json :=
  .obj [("id", .str "r1"), ("messages", .arr (envelopes.map .obj)), ("session_id", .str "s1")]

def linesOfEnvelopes (envelopes : List (List (String × Json))) : List String :=
  envelopes.map fun fields => (Json.obj fields).compact

/-- A directory with a stored run and a log of the same envelopes. -/
def ofEnvelopes (envelopes : List (List (String × Json))) : RunDirectory where
  read name :=
    if name = "r1.json" then
      .bytes (Text.Utf8.encode (runOfEnvelopes envelopes).compact.toList)
    else .bytes (RunLog.ofLines (linesOfEnvelopes envelopes))

/-- Envelopes that are read back as they are, each of them written on one line. -/
structure Writable (envelopes : List (List (String × Json))) : Prop where
  fits : (runOfEnvelopes envelopes).Fits
  exact : ∀ x ∈ (runOfEnvelopes envelopes).doubles, x.ReadsBack
  nested : (runOfEnvelopes envelopes).depth ≤ 127
  sorted : ∀ fields ∈ envelopes, (Json.obj fields).sorted = .obj fields
  within : ∀ line ∈ linesOfEnvelopes envelopes, '\n' ∉ line.toList
  whole : ∀ line ∈ linesOfEnvelopes envelopes, line.toList.getLast? ≠ some '\r'

namespace Writable

variable {envelopes : List (List (String × Json))}

theorem stores (writable : Writable envelopes) :
    (ofEnvelopes envelopes).Stores .epoch "r1" envelopes := by
  have parsed := Json.parse_compact writable.fits writable.exact writable.nested
  have sorted : (runOfEnvelopes envelopes).sorted = runOfEnvelopes envelopes := by
    have items : (envelopes.map Json.obj).map Json.sorted = envelopes.map .obj := by
      rw [List.map_map]
      exact List.map_congr_left writable.sorted
    rw [runOfEnvelopes, Json.sorted_obj]
    simp only [List.map_cons, List.map_nil, Json.sortedField, Json.sorted_str, Json.sorted_arr, items]
    have messages : ¬"messages" < "id" := by decide
    have session : ¬"session_id" < "id" ∧ ¬"session_id" < "messages" := by decide
    simp only [Json.ofFields, List.foldl_cons, List.foldl_nil, Json.insertField, if_neg messages,
      if_neg session.1, if_neg session.2, String.reduceEq, if_false]
  rw [sorted] at parsed
  refine ⟨_, (runOfEnvelopes envelopes).compact, _, .start "r1" "s1" "" .epoch, rfl, ?_, parsed,
    rfl, rfl⟩
  rw [Text.Utf8.decode_encode, String.ofList_toList]

theorem logs (writable : Writable envelopes) : (ofEnvelopes envelopes).Logs "r1" envelopes := by
  refine ⟨_, linesOfEnvelopes envelopes, rfl,
    RunLog.holds_ofLines writable.within writable.whole, ?_⟩
  rw [linesOfEnvelopes, List.map_map]
  apply List.map_congr_left
  intro fields member
  have inRun : ("messages", Json.arr (envelopes.map .obj)) ∈ [("id", Json.str "r1"),
      ("messages", .arr (envelopes.map .obj)), ("session_id", .str "s1")] :=
    .tail _ (.head _)
  have inItems : Json.obj fields ∈ envelopes.map .obj := List.mem_map_of_mem member
  have fits : (Json.obj fields).Fits :=
    (Json.fits_arr _).mp ((Json.fits_obj _).mp writable.fits _ inRun) _ inItems
  have exact : ∀ x ∈ (Json.obj fields).doubles, x.ReadsBack := fun x carried =>
    writable.exact x
      (Json.mem_doubles_obj.mpr ⟨_, inRun, Json.mem_doubles_arr.mpr ⟨_, inItems, carried⟩⟩)
  have nested : (Json.obj fields).depth ≤ 127 := by
    have deeper := Json.depth_lt_arr inItems
    have deepest := (Json.depth_lt_obj inRun).trans_le writable.nested
    exact (deeper.trans deepest).le
  exact (Json.parse_compact fits exact nested).trans
    (congrArg Except.ok (writable.sorted fields member))

end Writable

end RunDirectory

end Transcript
