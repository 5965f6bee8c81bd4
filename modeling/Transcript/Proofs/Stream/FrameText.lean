import Transcript.Stream.Frame
import Mathlib.Data.List.TakeWhile

/-! # Lines that are objects

A text that is read as an object starts, behind its blanks, with a brace (`head?_trimStart_of_parse`),
so no object is missed where a line that starts otherwise is not read at all: a line is an envelope
exactly if it is read as an object (`Frame.ofText_eq_envelope_iff`).

The blanks that are skipped before that brace is looked for are more than the four of JSON. It makes no
difference, since behind a blank that is not one of the four no object is read; and the four in front of a
text do not change what is read (`Json.Reader.document_eq_of_skipSpace`).
-/

namespace Transcript

namespace Json.Reader

open Text (trimStart)

/-- The blanks of JSON are blanks of text. -/
theorem trimStart_skipSpace (text : List Char) : trimStart (skipSpace text) = trimStart text := by
  induction text with
  | nil => rfl
  | cons c rest ih =>
    cases space : isSpace c with
    | false => rw [skipSpace, List.dropWhile_cons_of_neg (by simp [space])]
    | true =>
      have blank : Text.isBlank c = true := by
        simp only [isSpace, Bool.or_eq_true, beq_iff_eq] at space
        rcases space with ((rfl | rfl) | rfl) | rfl <;> decide
      rw [skipSpace, List.dropWhile_cons_of_pos space, ← skipSpace, ih,
        Text.trimStart_cons_of_isBlank blank]

theorem skipSpace_of_next? {text : List Char} {c : Char} {after : Shorter text}
    (first : next? text = some (c, after)) : skipSpace text = c :: after.1 := by
  unfold next? at first
  split at first
  · contradiction
  · next there =>
    cases first
    exact there

theorem map_ne_ok {ε α β γ : Type} {f : α → β × γ} {b : β} (different : ∀ a, (f a).1 ≠ b)
    (x : Except ε α) (c : γ) : x.map f ≠ .ok (b, c) := by
  intro same
  cases x with
  | error stop => contradiction
  | ok a => exact different a (congrArg Prod.fst (Except.ok.inj same))

/-- What is read as an object starts with a brace. -/
theorem next?_of_value {levels : Nat} {text : List Char} {fields : List (String × Json)}
    {rest : Shorter text} (ok : value levels text = .ok (.obj fields, rest)) :
    ∃ after, next? text = some ('{', after) := by
  rw [value] at ok
  cases first : next? text with
  | none => simp [first] at ok
  | some found =>
    obtain ⟨c, after⟩ := found
    simp only [first] at ok
    split at ok
    next => exact absurd ok (map_ne_ok (by simp) _ _)
    next => exact absurd ok (map_ne_ok (by simp) _ _)
    next => exact absurd ok (map_ne_ok (by simp) _ _)
    next => exact absurd ok (map_ne_ok (by simp) _ _)
    next => exact absurd ok (map_ne_ok (by simp) _ _)
    next =>
      split at ok
      · contradiction
      · split at ok
        · contradiction
        · simp at ok
        · exact absurd ok (map_ne_ok (by simp) _ _)
    next => exact ⟨after, rfl⟩
    next =>
      split at ok
      · exact absurd ok (map_ne_ok (by simp) _ _)
      · contradiction

theorem parse_eq_ok_iff {text : String} {v : Json} :
    Json.parse text = .ok v ↔ document 128 text.toList = .ok v := by
  simp only [Json.parse, parseNested]
  cases document 128 text.toList <;> simp [Except.mapError]

theorem skipSpace_of_parse {text : String} {fields : List (String × Json)}
    (parsed : Json.parse text = .ok (.obj fields)) : ∃ after, skipSpace text.toList = '{' :: after := by
  have read := parse_eq_ok_iff.mp parsed
  cases ok : value 128 text.toList with
  | error stop => simp [document, ok, bind, Except.bind] at read
  | ok found =>
    obtain ⟨other, rest⟩ := found
    simp only [document, ok, bind, Except.bind] at read
    split at read
    · obtain rfl := Except.ok.inj read
      obtain ⟨after, first⟩ := next?_of_value ok
      exact ⟨after.1, skipSpace_of_next? first⟩
    · contradiction

theorem head?_trimStart_of_parse {text : String} {fields : List (String × Json)}
    (parsed : Json.parse text = .ok (.obj fields)) : (trimStart text.toList).head? = some '{' := by
  obtain ⟨after, skipped⟩ := skipSpace_of_parse parsed
  rw [← trimStart_skipSpace, skipped, Text.trimStart_cons_of_not_isBlank (by decide)]
  rfl

/-! ## What stands in front of a value -/

theorem next?_eq_none_iff {text : List Char} : next? text = none ↔ skipSpace text = [] := by
  unfold next?
  split
  next nothing => simp [nothing]
  next there => simp [there]

theorem next?_of_skipSpace {text rest : List Char} {c : Char} (skipped : skipSpace text = c :: rest) :
    ∃ after : Shorter text, next? text = some (c, after) ∧ after.1 = rest := by
  cases first : next? text with
  | none =>
    rw [next?_eq_none_iff.mp first] at skipped
    contradiction
  | some found =>
    obtain ⟨d, after⟩ := found
    obtain ⟨rfl, same⟩ := List.cons.inj ((skipSpace_of_next? first).symm.trans skipped)
    exact ⟨after, rfl, same⟩

theorem map_map {ε α β γ : Type} (x : Except ε α) (f : α → β) (g : β → γ) :
    (x.map f).map g = x.map (g ∘ f) := by
  cases x <;> rfl

/-- What was read of a text, and what is left of it. -/
def outcome {α : Type} {text : List Char} (read : α × Shorter text) : α × List Char :=
  (read.1, read.2.1)

/-- A value is read alike behind whatever blanks it stands. -/
theorem value_of_skipSpace {text text' : List Char} (same : skipSpace text = skipSpace text')
    (depth : Nat) : (value depth text).map outcome = (value depth text').map outcome := by
  rw [value, value]
  cases skipped : skipSpace text with
  | nil =>
    rw [next?_eq_none_iff.mpr skipped, next?_eq_none_iff.mpr (same ▸ skipped)]
    rfl
  | cons c rest =>
    obtain ⟨⟨after, _⟩, first, rfl⟩ := next?_of_skipSpace skipped
    obtain ⟨⟨after', _⟩, first', same⟩ := next?_of_skipSpace (same ▸ skipped)
    obtain rfl : after' = after := same
    rw [first, first']
    dsimp only
    -- From here on both sides read the same text, and differ only in how long they know it to be.
    split
    case h_1 | h_2 | h_3 | h_4 | h_5 =>
      simp only [map_map]
      rfl
    case h_6 =>
      split
      next => rfl
      next =>
        split
        next => rfl
        next => rfl
        next =>
          simp only [map_map]
          rfl
    case h_7 =>
      split
      next => rfl
      next =>
        split
        next => rfl
        next => rfl
        next =>
          simp only [map_map]
          rfl
        next => rfl
    case h_8 =>
      split
      next =>
        simp only [map_map]
        rfl
      next => rfl

/-- A text is read alike behind whatever blanks it stands. -/
theorem document_eq_of_skipSpace {text text' : List Char} (same : skipSpace text = skipSpace text')
    (depth : Nat) : document depth text = document depth text' := by
  have values := value_of_skipSpace same depth
  simp only [document]
  cases read : value depth text with
  | error stop =>
    cases read' : value depth text' with
    | error stop' =>
      rw [read, read'] at values
      obtain rfl : stop = stop' := Except.error.inj values
      rfl
    | ok found => simp [read, read', Except.map] at values
  | ok found =>
    cases read' : value depth text' with
    | error stop => simp [read, read', Except.map] at values
    | ok found' =>
      obtain ⟨v, rest, _⟩ := found
      obtain ⟨v', rest', _⟩ := found'
      rw [read, read'] at values
      obtain ⟨rfl, same⟩ := Prod.mk.inj (Except.ok.inj values)
      obtain rfl : rest = rest' := same
      rfl

/-- Of blanks in front of a brace only those of JSON are skipped. -/
theorem isSpace_of_skipSpace {lead rest after : List Char}
    (blank : ∀ c ∈ lead, Text.isBlank c = true)
    (skipped : skipSpace (lead ++ '{' :: rest) = '{' :: after) : ∀ c ∈ lead, isSpace c = true := by
  induction lead with
  | nil => simp
  | cons c lead ih =>
    obtain ⟨first, others⟩ := List.forall_mem_cons.mp blank
    cases space : isSpace c with
    | true =>
      rw [skipSpace, List.cons_append, List.dropWhile_cons_of_pos space] at skipped
      exact List.forall_mem_cons.mpr ⟨space, ih others skipped⟩
    | false =>
      rw [skipSpace, List.cons_append, List.dropWhile_cons_of_neg (by simp [space])] at skipped
      rw [(List.cons.inj skipped).1] at first
      exact absurd first (by decide)

/-- An object behind blanks is read if they are blanks of JSON, and then as the same object. -/
theorem parse_behind_iff {text : String} {lead rest : List Char}
    (blank : ∀ c ∈ lead, Text.isBlank c = true) (written : text.toList = lead ++ '{' :: rest)
    (fields : List (String × Json)) :
    Json.parse text = .ok (.obj fields) ↔
      (∀ c ∈ lead, isSpace c = true) ∧
        Json.parse (String.ofList ('{' :: rest)) = .ok (.obj fields) := by
  have behind (spaces : ∀ c ∈ lead, isSpace c = true) :
      Json.parse text = .ok (.obj fields) ↔
        Json.parse (String.ofList ('{' :: rest)) = .ok (.obj fields) := by
    have skipped : skipSpace text.toList = skipSpace (String.ofList ('{' :: rest)).toList := by
      rw [written, String.toList_ofList, skipSpace, List.dropWhile_append_of_pos spaces, skipSpace]
    rw [parse_eq_ok_iff, parse_eq_ok_iff, document_eq_of_skipSpace skipped]
  constructor
  · intro parsed
    obtain ⟨after, skipped⟩ := skipSpace_of_parse parsed
    have spaces := isSpace_of_skipSpace blank (written ▸ skipped)
    exact ⟨spaces, (behind spaces).mp parsed⟩
  · rintro ⟨spaces, parsed⟩
    exact (behind spaces).mpr parsed

end Json.Reader

namespace Frame

variable {chunk : String}

theorem ofText_of_parse {fields : List (String × Json)}
    (parsed : Json.parse chunk = .ok (.obj fields)) : ofText chunk = .envelope (.obj fields) := by
  rw [ofText, if_pos (Json.Reader.head?_trimStart_of_parse parsed), parsed]

theorem ofText_of_not_parse (text : ∀ fields, Json.parse chunk ≠ .ok (.obj fields)) :
    ofText chunk = .delta none chunk := by
  unfold ofText
  split
  · split
    · next fields parsed => exact absurd parsed (text fields)
    · rfl
  · rfl

/-- A blank line is no object. -/
theorem isAllBlank_of_parse {fields : List (String × Json)}
    (parsed : Json.parse chunk = .ok (.obj fields)) : Text.isAllBlank chunk = false := by
  have head := Json.Reader.head?_trimStart_of_parse parsed
  rw [← Bool.not_eq_true]
  intro blank
  have nothing : Text.trimStart chunk.toList = [] := by
    rw [Text.trimStart, List.dropWhile_eq_nil_iff]
    exact List.all_eq_true.mp blank
  rw [nothing] at head
  contradiction

/-- No line says that the stream has failed. -/
theorem isFailure_ofText (chunk : String) : (ofText chunk).isFailure = false := by
  unfold ofText
  split
  · split <;> rfl
  · rfl

/-- The first character that is not blank is only a quick check: a chunk is an envelope exactly if the
whole of it is read as an object, and then one with that object; and any other chunk is text from no source,
character for character. Whatever blanks stand in front of a brace, what is behind them is an envelope
exactly if these are blanks of JSON and it is read as an object without them. -/
theorem ofText_eq_envelope_iff (chunk : String) :
    (∀ v, ofText chunk = .envelope v ↔
      (∃ fields, v = .obj fields) ∧ Json.parse chunk = .ok v) ∧
    (ofText chunk = .delta none chunk ↔ ∀ fields, Json.parse chunk ≠ .ok (.obj fields)) ∧
    (∀ fields, Json.parse chunk = .ok (.obj fields) →
      (Text.trimStart chunk.toList).head? = some '{') ∧
    ∀ lead rest, (∀ c ∈ lead, Text.isBlank c = true) → chunk.toList = lead ++ '{' :: rest →
      ∀ fields, ofText chunk = .envelope (.obj fields) ↔
        (∀ c ∈ lead, Json.Reader.isSpace c = true) ∧
          Json.parse (String.ofList ('{' :: rest)) = .ok (.obj fields) := by
  have envelope (v : Json) : ofText chunk = .envelope v ↔
      (∃ fields, v = .obj fields) ∧ Json.parse chunk = .ok v := by
    by_cases object : ∃ fields, Json.parse chunk = .ok (.obj fields)
    · obtain ⟨fields, parsed⟩ := object
      rw [ofText_of_parse parsed, parsed, Frame.envelope.injEq, Except.ok.injEq]
      exact ⟨fun same => ⟨⟨fields, same.symm⟩, same⟩, And.right⟩
    · rw [ofText_of_not_parse (not_exists.mp object)]
      constructor
      · intro impossible
        contradiction
      · rintro ⟨⟨fields, rfl⟩, parsed⟩
        exact absurd ⟨fields, parsed⟩ object
  refine ⟨envelope, ⟨?_, ofText_of_not_parse⟩, fun _ => Json.Reader.head?_trimStart_of_parse, ?_⟩
  · intro text fields parsed
    rw [ofText_of_parse parsed] at text
    contradiction
  · intro lead rest blank written fields
    rw [envelope, Json.Reader.parse_behind_iff blank written]
    exact and_iff_right ⟨fields, rfl⟩

/-- A no-break space is blank, but not in JSON. -/
theorem ofText_eq_envelope_iff_noBreakSpace :
    ofText "\n {}" = .envelope (.obj []) ∧ ofText "\u00a0{}" = .delta none "\u00a0{}" := by
  have read : Json.parse (String.ofList ('{' :: ['}'])) = .ok (.obj []) := by cbv
  have both (p : Char → Prop) (first : p '\n') (second : p ' ') : ∀ c ∈ ['\n', ' '], p c :=
    List.forall_mem_cons.mpr ⟨first, List.forall_mem_singleton.mpr second⟩
  obtain ⟨-, -, -, behind⟩ := ofText_eq_envelope_iff "\n {}"
  obtain ⟨-, text, -, refused⟩ := ofText_eq_envelope_iff "\u00a0{}"
  refine ⟨(behind ['\n', ' '] ['}'] (both _ (by decide) (by decide)) rfl []).mpr
    ⟨both _ (by decide) (by decide), read⟩, text.mpr ?_⟩
  intro fields parsed
  have envelope := ofText_of_parse parsed
  have blank : ∀ c ∈ ['\u00a0'], Text.isBlank c = true := List.forall_mem_singleton.mpr (by decide)
  have spaces := ((refused ['\u00a0'] ['}'] blank rfl fields).mp envelope).1
  exact absurd (spaces _ (.head _)) (by decide)

end Frame

end Transcript
