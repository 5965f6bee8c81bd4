/-! # Calendar dates

Dates of the Gregorian calendar, extended to all years of a fixed range. A date is a real one by its
type; the day after and the day before are the only steps, and fail only at the ends of the range.
-/

namespace Transcript

namespace Date

def isLeap (year : Int) : Bool :=
  year % 4 == 0 && (year % 100 != 0 || year % 400 == 0)

/-- The number of days of a month, and zero if there is no such month. -/
def daysIn (year : Int) (month : Nat) : Nat :=
  match month with
  | 1 | 3 | 5 | 7 | 8 | 10 | 12 => 31
  | 4 | 6 | 9 | 11 => 30
  | 2 => if isLeap year then 29 else 28
  | _ => 0

/-- The first and the last year that dates have. -/
def firstYear : Int := -262143

def lastYear : Int := 262142

end Date

/-- A day that exists. -/
structure Date where
  year : Int
  month : Nat
  day : Nat
  year_mem : Date.firstYear ≤ year ∧ year ≤ Date.lastYear
  day_mem : 1 ≤ day ∧ day ≤ Date.daysIn year month
deriving DecidableEq, Repr

namespace Date

/-- The date of a year, month and day, if it exists. -/
def of? (year : Int) (month day : Nat) : Option Date :=
  if hyear : firstYear ≤ year ∧ year ≤ lastYear then
    if hday : 1 ≤ day ∧ day ≤ daysIn year month then some ⟨year, month, day, hyear, hday⟩ else none
  else none

def next? (d : Date) : Option Date :=
  if d.day < daysIn d.year d.month then of? d.year d.month (d.day + 1)
  else if d.month < 12 then of? d.year (d.month + 1) 1
  else of? (d.year + 1) 1 1

def previous? (d : Date) : Option Date :=
  if 1 < d.day then of? d.year d.month (d.day - 1)
  else if 1 < d.month then of? d.year (d.month - 1) (daysIn d.year (d.month - 1))
  else of? (d.year - 1) 12 31

theorem of?_self (d : Date) : of? d.year d.month d.day = some d := by
  simp [of?, d.year_mem, d.day_mem]

theorem month_le (d : Date) : d.month ≤ 12 := by
  have days := d.day_mem
  unfold daysIn at days
  split at days <;> omega

/-- `number` in decimal, with zeros in front up to `width` digits. -/
def padded (width number : Nat) : String :=
  let digits := toString number
  String.ofList (List.replicate (width - digits.length) '0') ++ digits

/-- Year, month and day; a year that four digits cannot write has its sign. -/
def text (d : Date) : String :=
  let year :=
    if 0 ≤ d.year ∧ d.year ≤ 9999 then padded 4 d.year.natAbs
    else (if d.year < 0 then "-" else "+") ++ padded 4 d.year.natAbs
  year ++ "-" ++ padded 2 d.month ++ "-" ++ padded 2 d.day

end Date

end Transcript
