import Transcript.Text.Blank

/-! # Pieces of a text

A text cut at every occurrence of a separator. There is one piece more than there are separators, no
piece holds a separator, and the pieces with separators between them give the text back.
-/

namespace Transcript.Text

/-- The pieces between the separators. -/
def pieces (separator : Char) : List Char → List (List Char)
  | [] => [[]]
  | c :: rest =>
    if c = separator then [] :: pieces separator rest
    else match pieces separator rest with
      | [] => [[c]]
      | piece :: others => (c :: piece) :: others

/-- The pieces of a text, without the blanks at their ends, that are not empty then. -/
def entries (separator : Char) (text : String) : List String :=
  (((pieces separator text.toList).map trim).filter fun piece => !piece.isEmpty).map String.ofList

theorem not_mem_of_mem_pieces {separator : Char} {text piece : List Char}
    (h : piece ∈ pieces separator text) : separator ∉ piece := by
  induction text generalizing piece with
  | nil => simp_all [pieces]
  | cons c rest ih =>
    unfold pieces at h
    split at h
    · rcases List.mem_cons.mp h with rfl | h
      · simp
      · exact ih h
    · next other =>
      split at h
      · simp_all [Ne.symm other]
      · next first others pieces =>
        rcases List.mem_cons.mp h with rfl | h
        · have := ih (pieces ▸ List.mem_cons_self)
          simp [Ne.symm other, this]
        · exact ih (pieces ▸ List.mem_cons_of_mem _ h)

end Transcript.Text
