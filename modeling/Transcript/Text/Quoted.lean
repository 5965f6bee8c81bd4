import Transcript.Text.Glyphless

/-! # Quoted text

A text between double quotes in which nothing is invisible: the quote and the backslash are written
behind a backslash, the four common controls by their letters, and every other character without a
glyph of its own by its code point in lower-case hexadecimal. Each escape starts with a backslash,
and no character that stands for itself is a backslash or a quote.
-/

namespace Transcript.Text.Quoted

/-- The characters that stand for `c` between the quotes. -/
def escape (c : Char) : List Char :=
  match c with
  | '\x00' => ['\\', '0']
  | '\t' => ['\\', 't']
  | '\n' => ['\\', 'n']
  | '\r' => ['\\', 'r']
  | '"' => ['\\', '"']
  | '\\' => ['\\', '\\']
  | c =>
    if isGlyphless c then ['\\', 'u', '\x7b'] ++ Nat.toDigits 16 c.toNat ++ ['\x7d'] else [c]

/-- The text between quotes, every character escaped as needed. -/
def quote (text : String) : String :=
  String.ofList ('"' :: (text.toList.flatMap escape ++ ['"']))

end Transcript.Text.Quoted
