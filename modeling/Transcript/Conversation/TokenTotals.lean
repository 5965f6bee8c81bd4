import Transcript.Message.Encode
import Transcript.Json.Shape

/-! # Counting tokens

Running totals of the tokens that model calls took. Counters stop at the largest 64-bit number
instead of starting over.
-/

namespace Transcript

/-- The sum of two 64-bit numbers, or the largest one if the sum is beyond it. -/
def cappedAdd (a b : UInt64) : UInt64 :=
  UInt64.ofNat (min (a.toNat + b.toNat) (UInt64.size - 1))

/-- The tokens of all model calls so far. -/
structure TokenTotals where
  total : UInt64
  input : UInt64
  output : UInt64
deriving DecidableEq, Repr

namespace TokenTotals

def zero : TokenTotals := ⟨0, 0, 0⟩

instance : Inhabited TokenTotals := ⟨zero⟩

def record (t : TokenTotals) (usage : Usage) : TokenTotals where
  total := cappedAdd (cappedAdd t.total usage.promptTokens) usage.completionTokens
  input := cappedAdd t.input usage.promptTokens
  output := cappedAdd t.output usage.completionTokens

def isZero (t : TokenTotals) : Bool := t = zero

def toJson (t : TokenTotals) : Json :=
  .obj [("total", .ofUInt64 t.total), ("input", .ofUInt64 t.input), ("output", .ofUInt64 t.output)]

open Json.Decoder (field? required item checkWidth) in
def ofJson : Json.Decoder TokenTotals :=
  .record "TokenStats"
    (fun fields => do
      let input ← field? fields "input" .natural
      let output ← field? fields "output" .natural
      let total ← field? fields "total" .natural
      return ⟨← required "total" total, ← required "input" input, ← required "output" output⟩)
    (fun items => do
      let total ← item "TokenStats" 3 items 0 .natural
      let input ← item "TokenStats" 3 items 1 .natural
      let output ← item "TokenStats" 3 items 2 .natural
      checkWidth false 3 items
      return ⟨total, input, output⟩)

end TokenTotals

theorem toNat_cappedAdd (a b : UInt64) :
    (cappedAdd a b).toNat = min (a.toNat + b.toNat) (UInt64.size - 1) := by
  rw [cappedAdd, UInt64.toNat_ofNat']
  have size_pos : 0 < UInt64.size := by decide
  exact Nat.mod_eq_of_lt (by change _ < UInt64.size; omega)

end Transcript
