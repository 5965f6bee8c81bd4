import Transcript.Stream.Frame
import Transcript.Text.Utf8

/-! # The log of a run

A log holds the frames of a run, one to a line. Lines end at a line feed; a carriage return before
it belongs to the end of the line. Blank lines hold no frame. A line that is not UTF-8 ends the log.
-/

namespace Transcript.RunLog

def lineFeed : UInt8 := 0x0A

/-- The lines of a log, each with its line feed. -/
def rawLines (bytes : List UInt8) : List (List UInt8) :=
  match bytes with
  | [] => []
  | first :: others =>
    match _hrest : (first :: others).dropWhile (· ≠ lineFeed) with
    | [] => [first :: others]
    | stop :: rest =>
      ((first :: others).takeWhile (· ≠ lineFeed) ++ [stop]) :: rawLines rest
termination_by bytes.length
decreasing_by
  have shorter := (List.dropWhile_suffix (· ≠ lineFeed) (l := first :: others)).length_le
  rw [_hrest] at shorter
  simp only [List.length_cons] at shorter ⊢
  omega

/-- A line without its end. -/
def withoutEnd (line : List UInt8) : List UInt8 :=
  match line.reverse with
  | 0x0A :: 0x0D :: rest | 0x0A :: rest => rest.reverse
  | _ => line

/-- The text of a line. The end of the line is no part of the text, so a character that it cuts short
is incomplete. -/
def lineText (line : List UInt8) : Except Text.Utf8.Fault String :=
  Text.Utf8.decode (withoutEnd line)

/-- The frames of the lines, up to the first line that is not a text. -/
def framesOfLines : List (List UInt8) → List (Except Text.Utf8.Fault Frame)
  | [] => []
  | line :: rest =>
    match lineText line with
    | .error fault => [.error fault]
    | .ok text =>
      if Text.isAllBlank text then framesOfLines rest
      else .ok (.ofText text) :: framesOfLines rest

/-- The frames of a log, and last what is wrong with it, if anything is. -/
def frames (bytes : List UInt8) : List (Except Text.Utf8.Fault Frame) :=
  framesOfLines (rawLines bytes)

/-- The frames that are read when the log is given up after `limit` of them, or else until its end
or what is wrong with it; says whether the log was given up. -/
def readUpTo {ε : Type} (limit : Option Nat) :
    List (Except ε Frame) → List (Except ε Frame) × Bool
  | [] => ([], limit = some 0)
  | frame :: rest =>
    if limit = some 0 then ([], true)
    else match frame with
      | .error fault => ([.error fault], false)
      | .ok frame =>
        let (frames, givenUp) := readUpTo (limit.map (· - 1)) rest
        (.ok frame :: frames, givenUp)

end Transcript.RunLog
