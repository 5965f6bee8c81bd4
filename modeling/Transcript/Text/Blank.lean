/-! # Blank characters

The white space of the Unicode standard, and the ends of a text without it. Trimming removes a
maximal run of blanks and nothing else: what is left starts (or ends) with a character that is not
blank, and the removed part is blank throughout.
-/

namespace Transcript.Text

/-- The code points that have the Unicode property White_Space. -/
def isBlank (c : Char) : Bool :=
  (0x9 ≤ c.toNat && c.toNat ≤ 0xD) || c.toNat == 0x20 || c.toNat == 0x85 || c.toNat == 0xA0 ||
    c.toNat == 0x1680 || (0x2000 ≤ c.toNat && c.toNat ≤ 0x200A) || c.toNat == 0x2028 ||
    c.toNat == 0x2029 || c.toNat == 0x202F || c.toNat == 0x205F || c.toNat == 0x3000

/-- The characters from the first one that is not blank. -/
def trimStart (text : List Char) : List Char :=
  text.dropWhile isBlank

/-- The characters up to the last one that is not blank. -/
def trimEnd (text : List Char) : List Char :=
  (text.reverse.dropWhile isBlank).reverse

/-- The characters between the first and the last one that is not blank. -/
def trim (text : List Char) : List Char :=
  trimEnd (trimStart text)

/-- Whether a text holds no character but blanks. -/
def isAllBlank (text : String) : Bool :=
  text.toList.all isBlank

@[simp] theorem trimStart_nil : trimStart [] = [] := rfl

theorem trimStart_cons_of_isBlank {c : Char} {rest : List Char} (h : isBlank c = true) :
    trimStart (c :: rest) = trimStart rest := by
  simp [trimStart, h]

theorem trimStart_cons_of_not_isBlank {c : Char} {rest : List Char} (h : isBlank c = false) :
    trimStart (c :: rest) = c :: rest := by
  simp [trimStart, h]

end Transcript.Text
