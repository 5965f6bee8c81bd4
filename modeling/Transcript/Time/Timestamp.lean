import Transcript.Text.Blank
import Transcript.Time.Date

/-! # Points in time

A timestamp is kept in UTC, to the nanosecond, and may be inside a leap second. `Timestamp.text`
writes it as RFC 3339 does, with a fraction of no, three, six or nine digits, the fewest that are
exact. `Timestamp.read` accepts that form and others that say the same: an offset from UTC, a
fraction of any length, blanks around the parts.
-/

namespace Transcript

/-- A point in time in UTC. Second 60 is a leap second. -/
structure Timestamp where
  date : Date
  hour : Nat
  minute : Nat
  second : Nat
  nanosecond : Nat
  hour_lt : hour < 24
  minute_lt : minute < 60
  second_le : second ≤ 60
  nanosecond_lt : nanosecond < 1_000_000_000
deriving DecidableEq, Repr

namespace Timestamp

def epoch : Timestamp where
  date := ⟨1970, 1, 1, by decide, by decide⟩
  hour := 0
  minute := 0
  second := 0
  nanosecond := 0
  hour_lt := by decide
  minute_lt := by decide
  second_le := by decide
  nanosecond_lt := by decide

/-- The fraction of a second in the fewest of 0, 3, 6 and 9 digits. -/
def fractionText (nanosecond : Nat) : String :=
  if nanosecond = 0 then ""
  else if nanosecond % 1_000_000 = 0 then "." ++ Date.padded 3 (nanosecond / 1_000_000)
  else if nanosecond % 1_000 = 0 then "." ++ Date.padded 6 (nanosecond / 1_000)
  else "." ++ Date.padded 9 nanosecond

/-- The RFC 3339 form. -/
def text (t : Timestamp) : String :=
  t.date.text ++ "T" ++ Date.padded 2 t.hour ++ ":" ++ Date.padded 2 t.minute ++ ":"
    ++ Date.padded 2 t.second ++ fractionText t.nanosecond ++ "Z"

/-- Why a text is no timestamp. -/
inductive Fault where
  /-- A part is beyond its range, or the date does not exist. -/
  | outOfRange
  /-- The time exists at its offset, but not in UTC. -/
  | impossible
  /-- The text ends too early. -/
  | tooShort
  /-- The timestamp is followed by more than blanks. -/
  | tooLong
  /-- A character is not the one that has to be there. -/
  | invalid
deriving DecidableEq, Repr

def Fault.message : Fault → String
  | outOfRange => "input is out of range"
  | impossible => "no possible date and time matching input"
  | tooShort => "premature end of input"
  | tooLong => "trailing input"
  | invalid => "input contains invalid characters"

namespace Reader

/-- Take the digits at the front, at most `width` of them where a width is given. -/
def number (width : Option Nat) (text : List Char) : Except Fault (Nat × List Char) :=
  match text with
  | [] => .error .tooShort
  | c :: _ =>
    let window := match width with
      | some n => text.take n
      | none => text
    let digits := window.takeWhile Char.isDigit
    let value := digits.foldl (fun n d => n * 10 + (d.toNat - '0'.toNat)) 0
    if !c.isDigit then .error .invalid
    else if Nat.pow 2 63 ≤ value then .error .outOfRange
    else .ok (value, text.drop digits.length)

/-- Take a number of at most two digits, with blanks before it, in the given range. -/
def part (least greatest : Nat) (text : List Char) : Except Fault (Nat × List Char) := do
  let (value, rest) ← number (some 2) (Text.trimStart text)
  if least ≤ value ∧ value ≤ greatest then return (value, rest) else throw .outOfRange

/-- Take a year: four digits at most, or any number of them after a sign. -/
def year (text : List Char) : Except Fault (Int × List Char) := do
  let (value, rest) ← match Text.trimStart text with
    | '-' :: rest => do
      let (value, rest) ← number none rest
      pure (-(value : Int), rest)
    | '+' :: rest => do
      let (value, rest) ← number none rest
      pure ((value : Int), rest)
    | rest => do
      let (value, rest) ← number (some 4) rest
      pure ((value : Int), rest)
  if -2_147_483_648 ≤ value ∧ value < 2_147_483_648 then return (value, rest) else throw .outOfRange

/-- Take one given character, with blanks before it. -/
def mark (expected : Char) (text : List Char) : Except Fault (List Char) :=
  match Text.trimStart text with
  | [] => .error .tooShort
  | c :: rest => if c = expected then .ok rest else .error .invalid

/-- Take the mark between date and time. -/
def separator (text : List Char) : Except Fault (List Char) :=
  match text with
  | [] => .error .tooShort
  | c :: rest => if c = 'T' ∨ c = 't' ∨ c = ' ' then .ok rest else .error .invalid

/-- Take a fraction of a second, if there is one. Digits beyond the ninth are dropped. -/
def fraction (text : List Char) : Except Fault (Nat × List Char) :=
  match text with
  | '.' :: digits => do
    let (value, rest) ← number (some 9) digits
    let width := digits.length - rest.length
    return (value * Nat.pow 10 (9 - width), rest.dropWhile Char.isDigit)
  | rest => .ok (0, rest)

def digit? (c : Char) : Option Nat :=
  if c.isDigit then some (c.toNat - '0'.toNat) else none

/-- Take two decimal digits. A character beyond ASCII is at least two bytes long, so it is wrong
rather than one too few. -/
def twoDigits (text : List Char) : Except Fault (Nat × Nat × List Char) :=
  match text with
  | c :: d :: rest =>
    match digit? c, digit? d with
    | some tens, some ones => .ok (tens, ones, rest)
    | _, _ => .error .invalid
  | [c] => if c.utf8Size < 2 then .error .tooShort else .error .invalid
  | [] => .error .tooShort

/-- Take an offset from UTC, in minutes: `Z`, or a sign, hours and minutes. -/
def offset (text : List Char) : Except Fault (Int × List Char) := do
  match text with
  | [] => throw .tooShort
  | c :: rest =>
    if c = 'Z' ∨ c = 'z' then return (0, rest)
    else if c = '+' ∨ c = '-' ∨ c = '−' then
      let (tens, ones, rest) ← twoDigits rest
      let hours := tens * 10 + ones
      let (tens, ones, rest) ← twoDigits (rest.dropWhile fun c => c == ':' || Text.isBlank c)
      if 6 ≤ tens then throw .outOfRange
      else
        let minutes : Int := hours * 60 + (tens * 10 + ones)
        return (if c = '+' then minutes else -minutes, rest)
    else throw .invalid

/-- Take the zone: the letters `UTC`, or an offset. -/
def zone (text : List Char) : Except Fault (Int × List Char) :=
  match text with
  | u :: t :: c :: rest =>
    if (u = 'U' ∨ u = 'u') ∧ (t = 'T' ∨ t = 't') ∧ (c = 'C' ∨ c = 'c') then .ok (0, rest)
    else offset text
  | short => offset short

end Reader

/-- The UTC time of a wall clock that is `offset` minutes, less than a day, ahead of UTC. -/
def ofWall (date : Date) (minutes second nanosecond : Nat) (offset : Int) :
    Except Fault Timestamp :=
  let shifted : Int := minutes - offset
  let date? :=
    if shifted < 0 then date.previous? else if 1440 ≤ shifted then date.next? else some date
  let minutes := (shifted % 1440).toNat
  match date? with
  | none => .error .impossible
  | some date =>
    if h : second ≤ 60 ∧ nanosecond < 1_000_000_000 then
      .ok ⟨date, minutes / 60, minutes % 60, second, nanosecond, by omega, by omega, h.1, h.2⟩
    else .error .outOfRange

/-- The timestamp that a text stands for. -/
def read (text : String) : Except Fault Timestamp := do
  let (year, rest) ← Reader.year text.toList
  let (month, rest) ← Reader.part 1 12 (← Reader.mark '-' rest)
  let (day, rest) ← Reader.part 1 31 (← Reader.mark '-' rest)
  let (hour, rest) ← Reader.part 0 23 (← Reader.separator rest)
  let (minute, rest) ← Reader.part 0 59 (← Reader.mark ':' rest)
  let (second, rest) ← Reader.part 0 60 (← Reader.mark ':' rest)
  let (nanosecond, rest) ← Reader.fraction rest
  let (offset, rest) ← Reader.zone (Text.trimStart rest)
  if !(Text.trimStart rest).isEmpty then throw .tooLong
  match Date.of? year month day with
  | none => throw .outOfRange
  | some date =>
    if 1440 ≤ offset.natAbs then throw .outOfRange
    else ofWall date (hour * 60 + minute) second nanosecond offset

end Timestamp

end Transcript
