import Transcript.Numeric.Binary64

/-! # The fewest digits that read back

Every double is the nearest one for all the reals of an interval around it. Of the decimal grids
with one, two and more digits, `Binary64.shortest` takes the first that has a point inside that
interval, and of the (at most two) candidates there the one nearer to the number.

`Decimal.Layout` says how such a decimal is written down: positionally while the exponent of its
first digit is in a range, and otherwise with that exponent.
-/

namespace Transcript

/-- The decimal `coefficient * 10 ^ exponent`. -/
structure Decimal where
  coefficient : Nat
  exponent : Int
deriving DecidableEq, Repr

namespace Binary64

/-- The reals that round to a positive double: the fractions from `least / unit` to
`greatest / unit`, with the double itself at `value / unit`. -/
structure Interval where
  least : Nat
  value : Nat
  greatest : Nat
  unit : Nat
  /-- Whether the two ends round to the double too, which they do when its mantissa is even. -/
  closed : Bool

/-- The interval of a double. Below a power of two the neighbour is at half the distance. -/
def interval (x : Binary64) : Interval :=
  let scale := Nat.pow 2 (x.exponent - 2).toNat
  let below := if x.mantissa = Nat.pow 2 52 ∧ x.exponent ≠ -1074 then 1 else 2
  { least := (4 * x.mantissa - below) * scale
    value := 4 * x.mantissa * scale
    greatest := (4 * x.mantissa + 2) * scale
    unit := Nat.pow 2 (2 - x.exponent).toNat
    closed := x.mantissa % 2 == 0 }

/-- Whether the fraction `num / den` lies in the interval. -/
def Interval.contains (i : Interval) (num den : Nat) : Bool :=
  if i.closed then i.least * den ≤ num * i.unit && num * i.unit ≤ i.greatest * den
  else i.least * den < num * i.unit && num * i.unit < i.greatest * den

/-- The point of the grid of multiples of `10 ^ exponent` inside the interval, if there is one; of
two, the nearer, and at a tie the even one. -/
def Interval.onGrid? (i : Interval) (exponent : Int) : Option Decimal :=
  let num := i.value * Nat.pow 10 (-exponent).toNat
  let den := i.unit * Nat.pow 10 exponent.toNat
  let below := num / den
  let inside := fun n : Nat =>
    i.contains (n * Nat.pow 10 exponent.toNat) (Nat.pow 10 (-exponent).toNat)
  let remainder := num % den
  let nearerBelow := 2 * remainder < den ∨ (2 * remainder = den ∧ below % 2 = 0)
  match inside below, inside (below + 1) with
  | true, true => some ⟨if nearerBelow then below else below + 1, exponent⟩
  | true, false => some ⟨below, exponent⟩
  | false, true => some ⟨below + 1, exponent⟩
  | false, false => none

/-- The first point met on grids that get finer by a factor of ten, for at most `grids` of them. -/
def Interval.search (i : Interval) : (grids : Nat) → (exponent : Int) → Decimal
  | 0, exponent =>
    ⟨i.value * Nat.pow 10 (-exponent).toNat / (i.unit * Nat.pow 10 exponent.toNat), exponent⟩
  | grids + 1, exponent => (i.onGrid? exponent).getD (i.search grids (exponent - 1))

/-- The decimal with the fewest digits that reads back as the magnitude of `x`. The search starts at
a grid coarser than the number, and seventeen digits always suffice. -/
def shortest (x : Binary64) : Decimal :=
  if x.mantissa = 0 then ⟨0, 0⟩
  else
    let bits : Int := x.mantissa.log2 + x.exponent + 1
    x.interval.search 20 (bits * 30103 / 100000 + 1)

end Binary64

namespace Decimal

/-- Where positional digits are used: for decimals whose first digit stands for a power of ten from
`10 ^ lowest` to `10 ^ highest`. Elsewhere the first digit is followed by the others as a fraction,
if there are any, and by the exponent with its sign. -/
structure Layout where
  lowest : Int
  highest : Int

/-- The digits with the decimal point between them, and at least one digit on either side. -/
def positional (digits : String) (first : Int) : String :=
  let width := digits.length
  if first < 0 then "0." ++ String.ofList (List.replicate (-first - 1).toNat '0') ++ digits
  else
    let whole := first.toNat + 1
    if width ≤ whole then digits ++ String.ofList (List.replicate (whole - width) '0') ++ ".0"
    else String.ofList (digits.toList.take whole) ++ "." ++ String.ofList (digits.toList.drop whole)

/-- The first digit, a fraction if there are more, and the exponent of the first digit. -/
def scientific (digits : String) (first : Int) : String :=
  let fraction := digits.toList.drop 1
  String.ofList (digits.toList.take 1)
    ++ (if fraction.isEmpty then "" else "." ++ String.ofList fraction)
    ++ (if first < 0 then "e-" else "e+") ++ toString first.natAbs

/-- A decimal written in a layout, with a minus sign if asked for. -/
def render (layout : Layout) (negative : Bool) (d : Decimal) : String :=
  let digits := toString d.coefficient
  let first := d.exponent + digits.length - 1
  (if negative then "-" else "") ++
    if layout.lowest ≤ first ∧ first ≤ layout.highest then positional digits first
    else scientific digits first

end Decimal

end Transcript
