import Transcript.Storage.RunDirectory
import Transcript.Text.Utf8.RoundTrip
import Mathlib.Data.List.Basic
import Mathlib.Data.List.TakeWhile

/-! # The lines of a log are read back

What the bytes of a log hold is given by its lines and their ends (`RunLog.Holds`). A byte of ASCII is
part of no longer character, so the lines are cut where they end, each is read as its text, and the
frames are those of the lines that are not blank (`RunLog.frames_of_holds`).
-/

namespace Transcript

namespace Text.Utf8

/-- A character beyond ASCII has no byte of ASCII. -/
theorem le_of_mem_utf8EncodeChar {c : Char} {byte : UInt8} (beyond : 127 < c.toNat)
    (member : byte ∈ String.utf8EncodeChar c) : 128 ≤ byte.toNat := by
  have wide : ∀ n, 128 ≤ n → n < 256 → byte = UInt8.ofNat n → 128 ≤ byte.toNat := by
    rintro n least greatest rfl
    rw [UInt8.toNat_ofNat']
    omega
  have code : c.val.toNat = c.toNat := rfl
  simp only [String.utf8EncodeChar, code, if_neg (Nat.not_le.mpr beyond)] at member
  generalize c.toNat = v at member
  split at member
  · simp only [List.mem_cons, List.not_mem_nil, or_false] at member
    rcases member with same | same <;> exact wide _ (by omega) (by omega) same
  · split at member
    · simp only [List.mem_cons, List.not_mem_nil, or_false] at member
      rcases member with same | same | same <;> exact wide _ (by omega) (by omega) same
    · simp only [List.mem_cons, List.not_mem_nil, or_false] at member
      rcases member with same | same | same | same <;> exact wide _ (by omega) (by omega) same

/-- A byte of ASCII is the whole of a character. -/
theorem eq_of_mem_utf8EncodeChar {c : Char} {byte : UInt8} (ascii : byte.toNat < 128)
    (member : byte ∈ String.utf8EncodeChar c) : c = Char.ofNat byte.toNat := by
  have within : c.toNat ≤ 127 := by
    by_contra beyond
    have high := le_of_mem_utf8EncodeChar (Nat.not_le.mp beyond) member
    omega
  have alone : String.utf8EncodeChar c = [UInt8.ofNat c.toNat] := if_pos within
  rw [alone] at member
  obtain rfl := List.mem_singleton.mp member
  rw [UInt8.toNat_ofNat', Nat.mod_eq_of_lt (by omega), Char.ofNat_toNat]

theorem not_mem_encode {text : List Char} {byte : UInt8} (ascii : byte.toNat < 128)
    (without : Char.ofNat byte.toNat ∉ text) : byte ∉ encode text := by
  intro member
  obtain ⟨c, there, spelled⟩ := List.mem_flatMap.mp member
  exact without (eq_of_mem_utf8EncodeChar ascii spelled ▸ there)

/-- A text ends in a byte of ASCII only if it ends in that character. -/
theorem getLast?_encode_ne {text : List Char} {byte : UInt8} (ascii : byte.toNat < 128)
    (different : text.getLast? ≠ some (Char.ofNat byte.toNat)) :
    (encode text).getLast? ≠ some byte := by
  rcases List.eq_nil_or_concat text with rfl | ⟨before, last, rfl⟩
  · simp [encode]
  · intro same
    have spelled : encode (before ++ [last]) = encode before ++ String.utf8EncodeChar last := by
      simp [encode]
    have spells : String.utf8EncodeChar last ≠ [] := by
      apply List.ne_nil_of_length_pos
      rw [String.length_utf8EncodeChar]
      exact last.utf8Size_pos
    rw [List.concat_eq_append, spelled, List.getLast?_append_of_ne_nil _ spells] at same
    have whole := eq_of_mem_utf8EncodeChar ascii (List.mem_of_getLast? same)
    exact different (by rw [List.concat_eq_append, List.getLast?_concat, whole])

end Text.Utf8

namespace RunLog

open Text (isAllBlank)
open Text.Utf8 (encode decode_encode)

def carriageReturn : UInt8 := 0x0D

/-- Whether the bytes of a log hold these lines. A line ends at a line feed, which may have a carriage
return in front of it; the last line may do without. -/
inductive Holds : List UInt8 → List String → Prop
  | nothing : Holds [] []
  | unended {line : String} (nonempty : line ≠ "") (within : '\n' ∉ line.toList) :
      Holds (encode line.toList) [line]
  | feed {line : String} {rest : List UInt8} {lines : List String} (within : '\n' ∉ line.toList)
      (whole : line.toList.getLast? ≠ some '\r') (later : Holds rest lines) :
      Holds (encode line.toList ++ lineFeed :: rest) (line :: lines)
  | returnFeed {line : String} {rest : List UInt8} {lines : List String}
      (within : '\n' ∉ line.toList) (later : Holds rest lines) :
      Holds (encode line.toList ++ carriageReturn :: lineFeed :: rest) (line :: lines)

/-- The log that lines make, with a line feed after each of them. -/
def ofLines (lines : List String) : List UInt8 :=
  lines.flatMap fun line => encode line.toList ++ [lineFeed]

theorem holds_ofLines {lines : List String} (within : ∀ line ∈ lines, '\n' ∉ line.toList)
    (whole : ∀ line ∈ lines, line.toList.getLast? ≠ some '\r') : Holds (ofLines lines) lines := by
  induction lines with
  | nil => exact .nothing
  | cons line rest ih =>
    obtain ⟨first, later⟩ := List.forall_mem_cons.mp within
    obtain ⟨firstWhole, laterWhole⟩ := List.forall_mem_cons.mp whole
    rw [ofLines, List.flatMap_cons, List.append_assoc]
    exact .feed first firstWhole (ih later laterWhole)

variable {line rest : List UInt8}

/-! ## Cutting a log into lines -/

theorem rawLines_append (within : lineFeed ∉ line) :
    rawLines (line ++ lineFeed :: rest) = (line ++ [lineFeed]) :: rawLines rest := by
  have different : ∀ byte ∈ line, decide (byte ≠ lineFeed) = true := by
    intro byte member
    exact decide_eq_true fun same => within (same ▸ member)
  have before : (line ++ lineFeed :: rest).takeWhile (· ≠ lineFeed) = line := by
    rw [List.takeWhile_append_of_pos different]
    simp
  have after : (line ++ lineFeed :: rest).dropWhile (· ≠ lineFeed) = lineFeed :: rest := by
    rw [List.dropWhile_append_of_pos different]
    simp
  obtain ⟨first, others, whole⟩ := List.exists_cons_of_ne_nil
    (List.append_ne_nil_of_right_ne_nil line (List.cons_ne_nil lineFeed rest))
  rw [whole] at before after ⊢
  rw [rawLines]
  split
  · next nothing => rw [after] at nothing; contradiction
  · next stop found there =>
    rw [after] at there
    obtain ⟨rfl, rfl⟩ := List.cons.inj there
    rw [before]

theorem rawLines_of_not_mem (nonempty : line ≠ []) (within : lineFeed ∉ line) :
    rawLines line = [line] := by
  have after : line.dropWhile (· ≠ lineFeed) = [] := by
    rw [List.dropWhile_eq_nil_iff]
    intro byte member
    exact decide_eq_true fun same => within (same ▸ member)
  obtain ⟨first, others, rfl⟩ := List.exists_cons_of_ne_nil nonempty
  rw [rawLines]
  split
  · rfl
  · next stop found there => rw [after] at there; contradiction

/-! ## Cutting the end off a line -/

theorem withoutEnd_feed (whole : line.getLast? ≠ some carriageReturn) :
    withoutEnd (line ++ [lineFeed]) = line := by
  rw [List.getLast?_eq_head?_reverse] at whole
  have reversed : (line ++ [lineFeed]).reverse = lineFeed :: line.reverse := by simp
  rw [withoutEnd, reversed]
  split
  · next rest same =>
    rw [(List.cons.inj same).2] at whole
    exact absurd rfl whole
  · next rest _ same =>
    rw [← (List.cons.inj same).2, List.reverse_reverse]
  · next other => exact absurd rfl (other line.reverse)

theorem withoutEnd_returnFeed : withoutEnd (line ++ [carriageReturn, lineFeed]) = line := by
  simp [withoutEnd, carriageReturn, lineFeed]

theorem withoutEnd_of_not_mem (within : lineFeed ∉ line) : withoutEnd line = line := by
  rw [← List.mem_reverse] at within
  unfold withoutEnd
  split
  · next same => rw [same] at within; exact absurd List.mem_cons_self within
  · next same => rw [same] at within; exact absurd List.mem_cons_self within
  · rfl

/-! ## Reading the lines -/

theorem framesOfLines_cons {text : String} (read : lineText line = .ok text)
    (later : List (List UInt8)) :
    framesOfLines (line :: later) =
      ([text].filter fun text => !isAllBlank text).map (fun text => .ok (Frame.ofText text)) ++
        framesOfLines later := by
  simp only [framesOfLines, read]
  cases blank : isAllBlank text <;> simp [blank]

/-- The frames of a log are those of its lines that are not blank. -/
theorem frames_of_holds {bytes : List UInt8} {lines : List String} (holds : Holds bytes lines) :
    frames bytes =
      (lines.filter fun line => !isAllBlank line).map fun line => .ok (Frame.ofText line) := by
  have unfed : ∀ {text : String}, '\n' ∉ text.toList → lineFeed ∉ encode text.toList :=
    fun within => Text.Utf8.not_mem_encode (by decide) within
  unfold frames
  induction holds with
  | nothing =>
    rw [rawLines]
    rfl
  | @unended text nonempty within =>
    have some : encode text.toList ≠ [] := by
      intro nothing
      have read := decode_encode text.toList
      rw [nothing, String.ofList_toList] at read
      exact nonempty (Except.ok.inj read).symm
    have read : lineText (encode text.toList) = .ok text := by
      rw [lineText, withoutEnd_of_not_mem (unfed within), decode_encode, String.ofList_toList]
    rw [rawLines_of_not_mem some (unfed within), framesOfLines_cons read]
    exact List.append_nil _
  | @feed text rest lines within whole later ih =>
    have read : lineText (encode text.toList ++ [lineFeed]) = .ok text := by
      rw [lineText, withoutEnd_feed (Text.Utf8.getLast?_encode_ne (by decide) whole), decode_encode,
        String.ofList_toList]
    rw [rawLines_append (unfed within), framesOfLines_cons read, ih, ← List.map_append,
      ← List.filter_append]
    rfl
  | @returnFeed text rest lines within later ih =>
    have unreturned : lineFeed ∉ encode text.toList ++ [carriageReturn] := by
      intro member
      rcases List.mem_append.mp member with inside | last
      · exact unfed within inside
      · exact absurd (List.mem_singleton.mp last) (by decide)
    have read : lineText (encode text.toList ++ [carriageReturn] ++ [lineFeed]) = .ok text := by
      rw [lineText, List.append_assoc, List.singleton_append, withoutEnd_returnFeed, decode_encode,
        String.ofList_toList]
    rw [← List.singleton_append, ← List.append_assoc, rawLines_append unreturned,
      framesOfLines_cons read, ih, ← List.map_append, ← List.filter_append]
    rfl

end RunLog

theorem RunDirectory.logFrames_of_holds {d : RunDirectory} {runId : String} {bytes : List UInt8}
    {lines : List String} (log : d.content runId "jsonl" = .bytes bytes)
    (holds : RunLog.Holds bytes lines) :
    d.logFrames runId = .ok
      (((lines.filter fun line => !Text.isAllBlank line).map Frame.ofText).map .ok) := by
  simp only [logFrames, log, RunLog.frames_of_holds holds, List.map_map]
  rfl

end Transcript
