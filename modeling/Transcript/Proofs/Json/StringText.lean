import Transcript.Json.Printer
import Transcript.Json.Reader

/-! # Strings are read back

Every character of a string is written as itself or as an escape, and read as one step of
`Reader.stringBody` (`stringBody_escapeChar`). The closing quote is the only quote that is not
escaped, so the reader stops there (`exists_stringBody`).
-/

namespace Transcript.Json.Reader

theorem hexDigit?_digitChar : ∀ d < 16, hexDigit? (Nat.digitChar d) = some d := by decide

/-- The escape of a control character without a letter of its own. -/
theorem exists_codePoint {c : Char} (control : c.toNat < 0x20) (rest : List Char) :
    ∃ h, codePoint ('0' :: '0' :: Nat.digitChar (c.toNat / 16) :: Nat.digitChar (c.toNat % 16)
      :: rest) = .ok (c, ⟨rest, h⟩) := by
  have high := hexDigit?_digitChar (c.toNat / 16) (by omega)
  have low := hexDigit?_digitChar (c.toNat % 16) (by omega)
  have zero : hexDigit? '0' = some 0 := by decide
  have value : c.toNat / 16 * 16 + c.toNat % 16 = c.toNat := by omega
  refine ⟨by simp; omega, ?_⟩
  simp only [codePoint, hex4, high, low, zero, Nat.zero_mul, Nat.zero_add, value]
  simp only [bind, Except.bind]
  rw [if_neg (by omega), if_neg (by omega)]
  simp [pure, Except.pure]

/-- A character is written as an escape, or as itself if it may stand in a string. -/
theorem escapeChar_cases (c : Char) : (∃ back, escapeChar c = '\\' :: back) ∨
    (escapeChar c = [c] ∧ c ≠ '"' ∧ c ≠ '\\' ∧ 0x20 ≤ c.toNat) := by
  unfold escapeChar
  split
  case h_8 quote backslash _ _ _ _ _ =>
    split
    · exact .inl ⟨_, rfl⟩
    · next plain => exact .inr ⟨rfl, quote, backslash, by omega⟩
  all_goals exact .inl ⟨_, rfl⟩

/-- The escape that a character is written as is read as that character. -/
theorem exists_escape {c : Char} {back : List Char} (escaped : escapeChar c = '\\' :: back)
    (rest : List Char) : ∃ h, escape (back ++ rest) = .ok (c, ⟨rest, h⟩) := by
  unfold escapeChar at escaped
  split at escaped
  case h_8 quote backslash _ _ _ _ _ =>
    split at escaped
    · next control =>
      cases escaped
      obtain ⟨shorter, read⟩ := exists_codePoint control rest
      exact ⟨by simp; omega, by simp [escape, read, Except.map]⟩
    · exact absurd (List.cons.inj escaped).1 backslash
  all_goals
    cases escaped
    exact ⟨by simp, rfl⟩

theorem stringBody_escapeChar {bound : Nat} {tail : List Char} (read : List Char) (c : Char)
    (h : (escapeChar c ++ tail).length ≤ bound) :
    ∃ h', stringBody bound read (escapeChar c ++ tail) h =
      stringBody bound (c :: read) tail h' := by
  have shorter : tail.length ≤ bound := by
    rw [List.length_append] at h
    omega
  refine ⟨shorter, ?_⟩
  obtain ⟨back, escaped⟩ | ⟨plain, noQuote, noBackslash, visible⟩ := escapeChar_cases c
  · obtain ⟨_, char⟩ := exists_escape escaped tail
    simp only [escaped, List.cons_append]
    rw [stringBody]
    simp [char]
  · simp only [plain, List.cons_append, List.nil_append]
    rw [stringBody, if_neg noQuote, if_neg noBackslash, if_neg (by omega)]

/-- The characters of a string, written and closed by a quote, are read up to that quote. -/
theorem exists_stringBody {bound : Nat} (read cs rest : List Char)
    (h : (cs.flatMap escapeChar ++ '"' :: rest).length ≤ bound) :
    ∃ h', stringBody bound read (cs.flatMap escapeChar ++ '"' :: rest) h =
      .ok (String.ofList (read.reverse ++ cs), ⟨rest, h'⟩) := by
  induction cs generalizing read with
  | nil =>
    refine ⟨by simp at h; omega, ?_⟩
    simp only [List.flatMap_nil, List.nil_append]
    rw [stringBody, if_pos rfl, List.append_nil]
  | cons c cs ih =>
    simp only [List.flatMap_cons, List.append_assoc] at h ⊢
    obtain ⟨shorter, step⟩ := stringBody_escapeChar read c h
    obtain ⟨h', others⟩ := ih (c :: read) shorter
    refine ⟨h', ?_⟩
    rw [step, others]
    simp

end Transcript.Json.Reader
