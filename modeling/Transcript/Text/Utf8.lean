/-! # Reading bytes as UTF-8

Characters are read one at a time from a list of bytes. Where no character starts, the reader says
how many bytes were good before that point and whether the text is cut short there or holds bytes
that no continuation could mend. A character is read in its one shortest form: overlong forms,
surrogates and code points beyond U+10FFFF are refused at their first byte.
-/

namespace Transcript.Text.Utf8

/-- Why bytes are not a text. The first `index` bytes are one. -/
inductive Fault where
  /-- The next `length` bytes start no character, whatever follows them. -/
  | malformed (index length : Nat)
  /-- The bytes end inside a character. -/
  | incomplete (index : Nat)
deriving DecidableEq, Repr

/-- The bytes that may follow a first byte: how many are owed, and the range of the next one. -/
structure Lead where
  owed : Nat
  least : UInt8
  greatest : UInt8
deriving DecidableEq, Repr

/-- What a first byte of a character of more than one byte asks of the next bytes. -/
def lead? (byte : UInt8) : Option Lead :=
  if 0xC2 ≤ byte ∧ byte ≤ 0xDF then some ⟨1, 0x80, 0xBF⟩
  else if byte = 0xE0 then some ⟨2, 0xA0, 0xBF⟩
  else if byte = 0xED then some ⟨2, 0x80, 0x9F⟩
  else if 0xE1 ≤ byte ∧ byte ≤ 0xEF then some ⟨2, 0x80, 0xBF⟩
  else if byte = 0xF0 then some ⟨3, 0x90, 0xBF⟩
  else if 0xF1 ≤ byte ∧ byte ≤ 0xF3 then some ⟨3, 0x80, 0xBF⟩
  else if byte = 0xF4 then some ⟨3, 0x80, 0x8F⟩
  else none

/-- One step of the reader: what it has read so far and the character it is inside of, if any. -/
structure Progress where
  /-- The characters read, the last one first. -/
  read : List Char
  /-- How many bytes those characters take. -/
  good : Nat
  /-- The bytes taken of an unfinished character, its code point so far and what is owed to it. -/
  pending : Option (Nat × Nat × Lead)

def step (progress : Progress) (byte : UInt8) : Except Fault Progress :=
  match progress.pending with
  | none =>
    if byte < 0x80 then
      .ok ⟨Char.ofNat byte.toNat :: progress.read, progress.good + 1, none⟩
    else
      match lead? byte with
      | none => .error (.malformed progress.good 1)
      | some lead =>
        .ok { progress with pending := some (1, byte.toNat % Nat.pow 2 (6 - lead.owed), lead) }
  | some (taken, code, lead) =>
    if lead.least ≤ byte ∧ byte ≤ lead.greatest then
      let code := code * 64 + byte.toNat % 64
      if lead.owed ≤ 1 then
        .ok ⟨Char.ofNat code :: progress.read, progress.good + taken + 1, none⟩
      else
        .ok { progress with pending := some (taken + 1, code, ⟨lead.owed - 1, 0x80, 0xBF⟩) }
    else .error (.malformed progress.good taken)

/-- The text that the bytes spell, or the first place where they spell none. -/
def decode (bytes : List UInt8) : Except Fault String := do
  let progress ← bytes.foldlM step ⟨[], 0, none⟩
  match progress.pending with
  | none => return String.ofList progress.read.reverse
  | some _ => throw (.incomplete progress.good)

def encode (text : List Char) : List UInt8 :=
  text.flatMap String.utf8EncodeChar

def byteLength (text : List Char) : Nat :=
  text.foldr (fun c size => c.utf8Size + size) 0

end Transcript.Text.Utf8
