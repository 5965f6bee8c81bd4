import Transcript.Text.Utf8

/-! # Bytes written are read back

The reader takes the bytes of one character to that character and to nothing else
(`foldlM_step_utf8EncodeChar`), and so the bytes of a text to the text (`decode_encode`): a file
that holds a text is never mistaken for one that holds another, or none.
-/

namespace Transcript.Text.Utf8

/-- No byte of ASCII starts a longer character. -/
theorem lead?_ascii : ∀ low < 128, lead? (UInt8.ofNat low) = none := by decide

theorem lead?_two : ∀ high < 32, 2 ≤ high →
    lead? (UInt8.ofNat (high + 192)) = some ⟨1, 0x80, 0xBF⟩ := by decide

theorem lead?_three : ∀ high < 16, lead? (UInt8.ofNat (high + 224)) =
    some ⟨2, if high = 0 then 0xA0 else 0x80, if high = 13 then 0x9F else 0xBF⟩ := by decide

theorem lead?_four : ∀ high < 5, lead? (UInt8.ofNat (high + 240)) =
    some ⟨3, if high = 0 then 0x90 else 0x80, if high = 4 then 0x8F else 0xBF⟩ := by decide

theorem step_lead {byte : UInt8} {lead : Lead} (h : lead? byte = some lead) (read : List Char)
    (good : Nat) :
    step ⟨read, good, none⟩ byte =
      .ok ⟨read, good, some (1, byte.toNat % Nat.pow 2 (6 - lead.owed), lead)⟩ := by
  have high : ¬ byte < 0x80 := by
    intro low
    have ascii := lead?_ascii byte.toNat (UInt8.lt_iff_toNat_lt.mp low)
    rw [UInt8.ofNat_toNat, h] at ascii
    contradiction
  simp [step, high, h]

theorem step_next {least greatest : UInt8} {owed taken code low : Nat} (read : List Char)
    (good : Nat) (small : low < 64) (hleast : least.toNat ≤ low + 128)
    (hgreatest : low + 128 ≤ greatest.toNat) (howed : 1 < owed) :
    step ⟨read, good, some (taken, code, ⟨owed, least, greatest⟩)⟩ (UInt8.ofNat (low + 128)) =
      .ok ⟨read, good, some (taken + 1, code * 64 + low, ⟨owed - 1, 0x80, 0xBF⟩)⟩ := by
  have value : (UInt8.ofNat (low + 128)).toNat = low + 128 := by
    rw [UInt8.toNat_ofNat']; omega
  have inside : least ≤ UInt8.ofNat (low + 128) ∧ UInt8.ofNat (low + 128) ≤ greatest := by
    simp only [UInt8.le_iff_toNat_le, value]; omega
  have digits : (low + 128) % 64 = low := by omega
  simp only [step, inside, and_self, if_true, value, digits, if_neg (Nat.not_le.mpr howed)]

theorem step_last {taken code low : Nat} (read : List Char) (good : Nat) (small : low < 64) :
    step ⟨read, good, some (taken, code, ⟨1, 0x80, 0xBF⟩)⟩ (UInt8.ofNat (low + 128)) =
      .ok ⟨Char.ofNat (code * 64 + low) :: read, good + taken + 1, none⟩ := by
  have value : (UInt8.ofNat (low + 128)).toNat = low + 128 := by
    rw [UInt8.toNat_ofNat']; omega
  have inside : 0x80 ≤ UInt8.ofNat (low + 128) ∧ UInt8.ofNat (low + 128) ≤ 0xBF := by
    simp only [UInt8.le_iff_toNat_le, value, UInt8.toNat_ofNat]; omega
  have digits : (low + 128) % 64 = low := by omega
  simp only [step, inside, and_self, if_true, value, digits, Nat.le_refl]

/-- The bytes of a character are read as that character. -/
theorem foldlM_step_utf8EncodeChar (c : Char) (read : List Char) (good : Nat) :
    (String.utf8EncodeChar c).foldlM step ⟨read, good, none⟩ =
      .ok ⟨c :: read, good + c.utf8Size, none⟩ := by
  have valid : c.toNat < 0xD800 ∨ (0xDFFF < c.toNat ∧ c.toNat < 0x110000) := c.valid
  have same : Char.ofNat c.toNat = c := Char.ofNat_toNat c
  have size : c.utf8Size = (String.utf8EncodeChar c).length := by
    simp
  rw [size]
  unfold String.utf8EncodeChar
  generalize hv : c.toNat = v at *
  have hval : c.val.toNat = v := hv
  simp only [hval]
  split
  · next h =>
    have value : (UInt8.ofNat v).toNat = v := by rw [UInt8.toNat_ofNat']; omega
    have low : UInt8.ofNat v < 0x80 := by
      rw [UInt8.lt_iff_toNat_lt, value]; exact Nat.lt_succ_of_le h
    simp [step, low, value, same]
  · split
    · next above h =>
      have code : v / 64 % 32 * 64 + v % 64 = v := by omega
      have value : (UInt8.ofNat (v / 64 % 32 + 192)).toNat % Nat.pow 2 (6 - 1) = v / 64 % 32 := by
        rw [UInt8.toNat_ofNat', show Nat.pow 2 (6 - 1) = 32 from rfl]; omega
      simp only [List.foldlM_cons, List.foldlM_nil,
        step_lead (lead?_two (v / 64 % 32) (by omega) (by omega)), bind, Except.bind, value,
        step_last read good (show v % 64 < 64 by omega), code, same]
      rfl
    · split
      · next above h =>
        have code : (v / 4096 % 16 * 64 + v / 64 % 64) * 64 + v % 64 = v := by omega
        have value : (UInt8.ofNat (v / 4096 % 16 + 224)).toNat % Nat.pow 2 (6 - 2) =
            v / 4096 % 16 := by
          rw [UInt8.toNat_ofNat', show Nat.pow 2 (6 - 2) = 16 from rfl]; omega
        simp only [List.foldlM_cons, List.foldlM_nil,
          step_lead (lead?_three (v / 4096 % 16) (by omega)), bind, Except.bind, value]
        have least : (if v / 4096 % 16 = 0 then (0xA0 : UInt8) else 0x80).toNat ≤
            v / 64 % 64 + 128 := by
          split
          · simp; omega
          · simp
        have greatest : v / 64 % 64 + 128 ≤
            (if v / 4096 % 16 = 13 then (0x9F : UInt8) else 0xBF).toNat := by
          split
          · simp; omega
          · simp; omega
        rw [step_next read good (show v / 64 % 64 < 64 by omega) least greatest (by decide)]
        simp only [step_last read good (show v % 64 < 64 by omega), code, same]
        rfl
      · next above =>
        have code : ((v / 262144 % 8 * 64 + v / 4096 % 64) * 64 + v / 64 % 64) * 64 + v % 64 =
            v := by
          omega
        have value : (UInt8.ofNat (v / 262144 % 8 + 240)).toNat % Nat.pow 2 (6 - 3) =
            v / 262144 % 8 := by
          rw [UInt8.toNat_ofNat', show Nat.pow 2 (6 - 3) = 8 from rfl]; omega
        simp only [List.foldlM_cons, List.foldlM_nil,
          step_lead (lead?_four (v / 262144 % 8) (by omega)), bind, Except.bind, value]
        have least : (if v / 262144 % 8 = 0 then (0x90 : UInt8) else 0x80).toNat ≤
            v / 4096 % 64 + 128 := by
          split
          · simp; omega
          · simp
        have greatest : v / 4096 % 64 + 128 ≤
            (if v / 262144 % 8 = 4 then (0x8F : UInt8) else 0xBF).toNat := by
          split
          · simp; omega
          · simp; omega
        rw [step_next read good (show v / 4096 % 64 < 64 by omega) least greatest (by decide)]
        simp only []
        rw [step_next read good (show v / 64 % 64 < 64 by omega) (by simp) (by simp; omega)
          (by decide)]
        simp only [step_last read good (show v % 64 < 64 by omega), code, same]
        rfl

theorem foldlM_step_encode (text read : List Char) (good : Nat) :
    (encode text).foldlM step ⟨read, good, none⟩ =
      .ok ⟨text.reverse ++ read, good + byteLength text, none⟩ := by
  induction text generalizing read good with
  | nil => rfl
  | cons c rest ih =>
    rw [encode, List.flatMap_cons, List.foldlM_append, foldlM_step_utf8EncodeChar]
    change (encode rest).foldlM step _ = _
    rw [ih]
    simp [byteLength, Nat.add_assoc]

/-- A text is read back from its bytes. -/
theorem decode_encode (text : List Char) : decode (encode text) = .ok (String.ofList text) := by
  rw [decode, foldlM_step_encode]
  simp [bind, Except.bind, pure, Except.pure]

end Transcript.Text.Utf8
