import Transcript.Keyed

/-! # Text that is still growing

For every source the text received since its last final one, in the order in which the sources
started to speak. Pieces are joined as they come; taking a source's text, or draining all of them,
makes the next piece start afresh.
-/

namespace Transcript

/-- The growing texts, by source. -/
structure Streaming where
  buffers : Keyed String String := ∅
deriving DecidableEq, Repr

namespace Streaming

def empty : Streaming := ⟨∅⟩

instance : EmptyCollection Streaming := ⟨empty⟩

instance : Inhabited Streaming := ⟨empty⟩

def pending (s : Streaming) (source : String) : Option String := s.buffers.get? source

def push (s : Streaming) (source piece : String) : Streaming :=
  ⟨s.buffers.set source ((s.pending source).getD "" ++ piece)⟩

def take (s : Streaming) (source : String) : Option String × Streaming :=
  (s.pending source, ⟨s.buffers.erase source⟩)

/-- Every source with its text, the one that began first in front. -/
def toList (s : Streaming) : List (String × String) := s.buffers.entries

/-- Every source with its text, and no growing text. -/
def drain (s : Streaming) : List (String × String) × Streaming := (s.toList, ∅)

def isEmpty (s : Streaming) : Bool := s.toList.isEmpty

theorem pending_push_self (s : Streaming) (source piece : String) :
    (s.push source piece).pending source = some ((s.pending source).getD "" ++ piece) := by
  simp [push, pending]

theorem pending_push_of_ne (s : Streaming) {source other : String} (h : other ≠ source)
    (piece : String) : (s.push other piece).pending source = s.pending source :=
  Keyed.get?_set_of_ne s.buffers h _

@[simp] theorem pending_take_self (s : Streaming) (source : String) :
    (s.take source).2.pending source = none :=
  Keyed.get?_erase_self s.buffers source

theorem pending_take_of_ne (s : Streaming) {source other : String} (h : other ≠ source) :
    (s.take other).2.pending source = s.pending source :=
  Keyed.get?_erase_of_ne s.buffers h

end Streaming

end Transcript
