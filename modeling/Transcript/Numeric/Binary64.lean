/-! # Double-precision numbers

The finite numbers of the IEEE 754 binary64 format, as exact values: a sign and an integer below
`2 ^ 53` times a power of two. Each number has one representation, so equality of representations
tells `0.0` from `-0.0` and nothing else apart that is equal in value.

`ofRatio?` rounds a fraction to the nearest number, a tie to the one whose mantissa is even, and has
no answer where the format would overflow. A product and a quotient are their exact fractions,
rounded.

`ofParts?` finds a decimal by such operations, one after another: its significand is rounded, then a
power of ten, then their product or quotient. That is fast and mostly right, but the number that
comes out need not be the one nearest to the decimal.
-/

namespace Transcript

namespace Binary64

/-- The one representation of each magnitude: the mantissa uses all of its 53 bits unless the
exponent is already the least one. -/
abbrev Canonical (mantissa : Nat) (exponent : Int) : Prop :=
  mantissa < Nat.pow 2 53 ∧ -1074 ≤ exponent ∧ exponent ≤ 971 ∧
    (Nat.pow 2 52 ≤ mantissa ∨ exponent = -1074)

end Binary64

/-- The finite double `±mantissa * 2 ^ exponent`. -/
structure Binary64 where
  negative : Bool
  mantissa : Nat
  exponent : Int
  canonical : Binary64.Canonical mantissa exponent
deriving DecidableEq, Repr

namespace Binary64

/-- Zero, of either sign. -/
def zero (negative : Bool) : Binary64 := ⟨negative, 0, -1074, by decide⟩

/-- Whether the number is `0.0` or `-0.0`. -/
def isZero (x : Binary64) : Bool := x.mantissa == 0

/-- The integer nearest to a fraction, a tie going to the even neighbour. -/
def roundQuotient (num den : Nat) : Nat :=
  let remainder := num % den
  if 2 * remainder < den ∨ (2 * remainder = den ∧ num / den % 2 = 0) then num / den
  else num / den + 1

/-- A fraction divided by a power of two, as a fraction of natural numbers. -/
def scale (num den : Nat) (exponent : Int) : Nat × Nat :=
  (num * Nat.pow 2 (-exponent).toNat, den * Nat.pow 2 exponent.toNat)

/-- The exponent with which the quotient of a positive fraction keeps 53 bits, or the least exponent
of the format if that is larger. -/
def scaleOf (num den : Nat) : Int :=
  let estimate : Int := num.log2 - den.log2 - 52
  let scaled := scale num den estimate
  max (-1074) (if scaled.1 / scaled.2 < Nat.pow 2 52 then estimate - 1 else estimate)

/-- The number nearest to `±num / den`, or none where that is beyond the largest finite one. -/
def ofRatio? (negative : Bool) (num den : Nat) : Option Binary64 :=
  if num = 0 then some (zero negative)
  else
    let exponent := scaleOf num den
    let scaled := scale num den exponent
    let rounded := roundQuotient scaled.1 scaled.2
    let (mantissa, exponent) :=
      if rounded = Nat.pow 2 53 then (Nat.pow 2 52, exponent + 1) else (rounded, exponent)
    if h : Canonical mantissa exponent then some ⟨negative, mantissa, exponent, h⟩ else none

/-- The number nearest to an integer, or none where that is beyond the largest finite one. -/
def ofInt? (n : Int) : Option Binary64 :=
  ofRatio? (n < 0) n.natAbs 1

def ratio (x : Binary64) : Nat × Nat := scale x.mantissa 1 (-x.exponent)

/-- The product, or none where it is beyond the largest finite number. -/
def mul? (x y : Binary64) : Option Binary64 :=
  ofRatio? (x.negative != y.negative) (x.ratio.1 * y.ratio.1) (x.ratio.2 * y.ratio.2)

/-- The quotient by a number that is not zero, or none where it is beyond the largest finite one. -/
def div? (x y : Binary64) : Option Binary64 :=
  ofRatio? (x.negative != y.negative) (x.ratio.1 * y.ratio.2) (x.ratio.2 * y.ratio.1)

/-- The number nearest to `10 ^ places`, or none where that is beyond the largest finite one. -/
def powerOfTen? (places : Nat) : Option Binary64 :=
  if places ≤ 308 then ofRatio? false (Nat.pow 10 places) 1 else none

/-- A number with its decimal point moved to the right. -/
def raise? (x : Binary64) (places : Nat) : Option Binary64 :=
  if x.isZero then some x else (powerOfTen? places).bind x.mul?

/-- A number with its decimal point moved to the left, by as many places at a time as a power of ten
allows. -/
def lower? (x : Binary64) (places : Nat) : Option Binary64 :=
  if places ≤ 308 then (powerOfTen? places).bind x.div?
  else if x.isZero then some x
  else do
    let step ← (powerOfTen? 308).bind x.div?
    step.lower? (places - 308)
termination_by places

/-- A number with its decimal point moved, to the right by a positive number of places. -/
def shift? (x : Binary64) (places : Int) : Option Binary64 :=
  if 0 ≤ places then x.raise? places.toNat else x.lower? (-places).toNat

/-- A number for `±significand * 10 ^ exponent`, or none where it is too large. -/
def ofParts? (negative : Bool) (significand : Nat) (exponent : Int) : Option Binary64 := do
  let whole ← ofRatio? false significand 1
  let scaled ← whole.shift? exponent
  return { scaled with negative }

@[simp] theorem ofRatio?_zero (negative : Bool) (den : Nat) :
    ofRatio? negative 0 den = some (zero negative) := by
  simp [ofRatio?]

end Binary64

end Transcript
