import Transcript.Proofs.Json.NumberText
import Transcript.Proofs.Numeric.FewDigits

/-! # Doubles that are read back

The reader does not always find the double that a text was written for: `Binary64.ReadsBack` says of a
double that it does. Reading comes down to `Binary64.ofParts?` at the significand and the exponent of
the text (`Binary64.readsBack_iff`), which finds the double whenever the text has few digits
(`Binary64.readsBack_of_few_digits`). With sixteen digits it can be the neighbour that is found
(`Binary64.not_readsBack_sixteenDigits`).
-/

namespace Transcript

namespace Json

namespace Reader

theorem exists_next? {c : Char} (visible : isSpace c = false) (rest : List Char) :
    ∃ h, next? (c :: rest) = some (c, ⟨rest, h⟩) := by
  have stays : skipSpace (c :: rest) = c :: rest := by simp [skipSpace, visible]
  refine ⟨by simp, ?_⟩
  unfold next?
  split
  · next none => simp [stays] at none
  · next first =>
    rw [stays] at first
    cases first
    rfl

theorem isSpace_of_isDigit {c : Char} (digit : c.isDigit = true) : isSpace c = false := by
  cases space : isSpace c with
  | false => rfl
  | true =>
    simp only [isSpace, Bool.or_eq_true, beq_iff_eq] at space
    rcases space with ((rfl | rfl) | rfl) | rfl <;> cases digit

/-- The text of a number is read as a value up to its end. -/
theorem exists_value_num (levels : Nat) {n : Number} (fits : n.Fits) {rest : List Char}
    (ends : EndsNumber rest) :
    ∃ h, value levels (n.text.toList ++ rest) =
      (n.reread rest).map fun number => (.num number, ⟨rest, h⟩) := by
  obtain ⟨negative, c, t, text, isDigit, leaves⟩ := Number.exists_leaves_unsigned fits
  have read := leaves rest ends
  rw [List.cons_append] at read
  obtain ⟨shorter, read⟩ := read
  rw [text, List.append_assoc, List.cons_append]
  cases negative with
  | true =>
    change ∃ h, value levels ('-' :: c :: (t ++ rest)) = _
    obtain ⟨_, first⟩ := exists_next? (c := '-') rfl (c :: (t ++ rest))
    refine ⟨Nat.lt_succ_of_lt shorter, ?_⟩
    rw [value]
    simp only [first, read]
    cases n.reread rest <;> rfl
  | false =>
    change ∃ h, value levels (c :: (t ++ rest)) = _
    obtain ⟨_, first⟩ := exists_next? (isSpace_of_isDigit isDigit) (t ++ rest)
    refine ⟨shorter, ?_⟩
    rw [value]
    simp only [first]
    split
    case h_8 =>
      rw [if_pos isDigit, read]
      cases n.reread rest <;> rfl
    all_goals exact absurd isDigit (by decide)

end Reader

/-- What the text of a number alone is read as. -/
theorem parse_num {n : Number} (fits : n.Fits) : parse (Json.num n).compact =
    ((n.reread []).map Json.num).mapError fun stop => stop.locate n.text.toList := by
  have read := Reader.exists_value_num 128 fits Reader.endsNumber_nil
  rw [List.append_nil] at read
  obtain ⟨_, read⟩ := read
  have ended : Reader.next? [] = none := rfl
  simp only [parse, parseNested, Reader.document, compact, read]
  cases n.reread [] <;>
    simp [ended, Except.map, bind, Except.bind, pure, Except.pure, Except.mapError]

end Json

namespace Binary64

/-- Whether the text that is written for a double is read as this double. -/
def ReadsBack (x : Binary64) : Prop :=
  Json.parse (Json.num (.float x)).compact = .ok (.num (.float x))

theorem readsBack_iff (x : Binary64) :
    x.ReadsBack ↔ ofParts? x.negative x.parts.1 x.parts.2 = some x := by
  have fits : (Json.Number.float x).Fits := trivial
  rw [ReadsBack, Json.parse_num fits, Json.Number.reread, Json.Reader.double]
  cases ofParts? x.negative x.parts.1 x.parts.2 <;> simp [Except.map, Except.mapError]

/-- What is read back alone is read back wherever it stands. -/
theorem ReadsBack.reread_eq {x : Binary64} (exact : x.ReadsBack) (rest : List Char) :
    (Json.Number.float x).reread rest = .ok (.float x) := by
  rw [Json.Number.reread, Json.Reader.double, (readsBack_iff x).mp exact]

/-- A double is read back if its text is a number of few digits with its point not far off. -/
theorem readsBack_of_few_digits {x : Binary64} (few : x.parts.1 < 2 ^ 53)
    (places : x.parts.2.natAbs ≤ 22) : x.ReadsBack := by
  rw [readsBack_iff]
  have value : (x.parts.1 : ℚ) * 10 ^ x.parts.2 = x.shortest.value := Decimal.parts_value _ _
  by_cases nonzero : x.mantissa = 0
  · have shortest : x.shortest = ⟨0, 0⟩ := if_pos nonzero
    have none : x.parts.1 = 0 := by
      simpa [shortest, Decimal.value, zpow_ne_zero] using value
    have alone : zero x.negative = x := by
      obtain ⟨negative, m, e, canonical⟩ := x
      obtain rfl : m = 0 := nonzero
      obtain rfl : e = -1074 := canonical.2.2.2.resolve_left (by decide)
      rfl
    rw [none, ofParts?_zero x.negative places, alone]
  · exact ofParts?_eq_some nonzero few places (value ▸ nearest_shortest nonzero)

/-- A double whose text has sixteen digits. -/
def sixteenDigits : Binary64 := ⟨false, 6857691191233994, -46, by decide⟩

/-- It is read as the next smaller double. -/
theorem not_readsBack_sixteenDigits :
    (Json.num (.float sixteenDigits)).compact = "97.45365320034685" ∧
      Json.parse "97.45365320034685" =
        .ok (.num (.float ⟨false, 6857691191233993, -46, by decide⟩)) ∧
      ¬sixteenDigits.ReadsBack := by
  have text : (Json.num (.float sixteenDigits)).compact = "97.45365320034685" := by decide +kernel
  have found : ofParts? sixteenDigits.negative sixteenDigits.parts.1 sixteenDigits.parts.2 =
      some ⟨false, 6857691191233993, -46, by decide⟩ := by decide +kernel
  have fits : (Json.Number.float sixteenDigits).Fits := trivial
  have read := Json.parse_num fits
  rw [Json.Number.reread, Json.Reader.double, found, text] at read
  refine ⟨text, read, ?_⟩
  rw [readsBack_iff, found]
  decide

end Binary64

end Transcript
