import Transcript.Text.Pieces
import Mathlib.Data.List.DropRight

/-! # Lists of entries in a text

The entries of a text are what is left of its pieces without the blanks at their ends (`trim_eq_iff`),
where anything is left. Entries that are written one after another with separators between them are read
back, whatever blanks stand around them and whatever blank pieces between them (`entries_intercalate`).
-/

namespace Transcript.Text

/-! ## Blanks at the ends -/

/-- Whether a text neither starts nor ends with a blank. -/
def IsTrimmed (text : List Char) : Prop :=
  (∀ c ∈ text.head?, isBlank c = false) ∧ ∀ c ∈ text.getLast?, isBlank c = false

/-- Whether `rest` is what is left of a text without the blanks at its ends. -/
def TrimsTo (text rest : List Char) : Prop :=
  IsTrimmed rest ∧ ∃ before after, text = before ++ rest ++ after ∧
    (∀ c ∈ before, isBlank c = true) ∧ ∀ c ∈ after, isBlank c = true

theorem isTrimmed_trim (text : List Char) : IsTrimmed (trim text) := by
  constructor
  · intro c first
    obtain ⟨removed, split⟩ : trim text <+: trimStart text := List.rdropWhile_prefix isBlank _
    have start : c ∈ (trimStart text).head? := by
      rw [← split]
      exact List.mem_head?_append_of_mem_head? first
    have nonempty : trimStart text ≠ [] := List.ne_nil_of_mem (List.mem_of_mem_head? start)
    have here : (trimStart text).head nonempty = c :=
      (List.head_eq_iff_head?_eq_some nonempty).mpr start
    exact here ▸ List.head_dropWhile_not isBlank nonempty
  · intro c last
    obtain ⟨nonempty, rfl⟩ := List.mem_getLast?_eq_getLast last
    exact Bool.eq_false_iff.mpr (List.rdropWhile_last_not isBlank (trimStart text) nonempty)

theorem trimsTo_trim (text : List Char) : TrimsTo text (trim text) := by
  refine ⟨isTrimmed_trim text, text.takeWhile isBlank, (trimStart text).rtakeWhile isBlank, ?_,
    fun c => List.mem_takeWhile_imp, fun c => List.mem_rtakeWhile_imp⟩
  have rest : trim text ++ (trimStart text).rtakeWhile isBlank = trimStart text :=
    List.rdropWhile_append_rtakeWhile
  rw [List.append_assoc, rest]
  exact List.takeWhile_append_dropWhile.symm

theorem trimEnd_append_of_isBlank {after : List Char} (blank : ∀ c ∈ after, isBlank c = true)
    (rest : List Char) : trimEnd (rest ++ after) = trimEnd rest := by
  have blank' : ∀ c ∈ after.reverse, isBlank c = true :=
    fun c member => blank c (List.mem_reverse.mp member)
  rw [trimEnd, List.reverse_append, List.dropWhile_append_of_pos blank']
  rfl

theorem trimEnd_of_isTrimmed {text : List Char} (trimmed : IsTrimmed text) : trimEnd text = text := by
  refine List.rdropWhile_eq_self_iff.mpr fun nonempty => ?_
  exact Bool.eq_false_iff.mp (trimmed.2 _ (List.getLast_mem_getLast? nonempty))

theorem trim_of_trimsTo {text rest : List Char} (trims : TrimsTo text rest) : trim text = rest := by
  obtain ⟨trimmed, before, after, rfl, blankBefore, blankAfter⟩ := trims
  have start : trimStart (before ++ rest ++ after) = trimStart (rest ++ after) := by
    rw [List.append_assoc]
    exact List.dropWhile_append_of_pos blankBefore
  rw [trim, start]
  cases rest with
  | nil =>
    -- nothing but blanks: those behind are dropped from the front as well
    have nothing : trimStart after = [] := List.dropWhile_eq_nil_iff.mpr blankAfter
    rw [List.nil_append, nothing]
    rfl
  | cons c rest =>
    rw [List.cons_append, trimStart_cons_of_not_isBlank (trimmed.1 c rfl), ← List.cons_append,
      trimEnd_append_of_isBlank blankAfter, trimEnd_of_isTrimmed trimmed]

theorem trim_of_isAllBlank {text : String} (blank : isAllBlank text = true) : trim text.toList = [] :=
  trim_of_trimsTo ⟨⟨nofun, nofun⟩, text.toList, [], by simp, List.all_eq_true.mp blank, nofun⟩

theorem trim_eq_iff {text rest : List Char} : trim text = rest ↔ TrimsTo text rest :=
  ⟨fun same => same ▸ trimsTo_trim text, trim_of_trimsTo⟩

/-! ## Entries -/

theorem pieces_eq_splitOn (separator : Char) (text : List Char) :
    pieces separator text = text.splitOn separator := by
  induction text with
  | nil => simp [pieces]
  | cons c rest ih =>
    rw [pieces, ih, List.splitOn_eq_splitOnP, List.splitOn_eq_splitOnP,
      List.splitOnP_cons_eq_if_modifyHead]
    simp only [beq_iff_eq]
    split
    · rfl
    · cases cut : rest.splitOnP (· == separator) with
      | nil => exact absurd cut (List.splitOnP_ne_nil _ rest)
      | cons piece others => rfl

/-- Whether a text can be an entry: it is not empty, in one piece and without blanks at its ends. -/
structure IsEntry (separator : Char) (text : String) : Prop where
  nonempty : text ≠ ""
  whole : separator ∉ text.toList
  trimmed : IsTrimmed text.toList

/-- The entries that pieces hold. -/
def entriesOf (pieces : List (List Char)) : List String :=
  ((pieces.map trim).filter fun piece => !piece.isEmpty).map String.ofList

theorem entries_eq (separator : Char) (text : String) :
    entries separator text = entriesOf (text.toList.splitOn separator) := by
  rw [entries, pieces_eq_splitOn, entriesOf]

theorem entriesOf_cons_blank {piece : List Char} (blank : trim piece = [])
    (pieces : List (List Char)) : entriesOf (piece :: pieces) = entriesOf pieces := by
  simp [entriesOf, blank]

theorem entriesOf_cons_entry {piece : List Char} {name : String} (trimmed : trim piece = name.toList)
    (nonempty : name ≠ "") (pieces : List (List Char)) :
    entriesOf (piece :: pieces) = name :: entriesOf pieces := by
  have kept : name.toList ≠ [] := fun empty => nonempty (String.toList_eq_nil_iff.mp empty)
  simp [entriesOf, trimmed, kept]

theorem map_toList_entriesOf (pieces : List (List Char)) :
    (entriesOf pieces).map String.toList = (pieces.map trim).filter fun piece => !piece.isEmpty := by
  simp [entriesOf, Function.comp_def]

theorem mem_entriesOf {pieces : List (List Char)} {name : String} :
    name ∈ entriesOf pieces ↔ name ≠ "" ∧ ∃ piece ∈ pieces, TrimsTo piece name.toList := by
  simp only [entriesOf, List.mem_map, List.mem_filter]
  constructor
  · rintro ⟨_, ⟨⟨piece, cut, rfl⟩, kept⟩, rfl⟩
    refine ⟨fun empty => ?_, piece, cut, ?_⟩
    · rw [String.ofList_eq_empty_iff.mp empty] at kept
      contradiction
    · rw [String.toList_ofList]
      exact trimsTo_trim piece
  · rintro ⟨nonempty, piece, cut, trims⟩
    refine ⟨trim piece, ⟨⟨piece, cut, rfl⟩, ?_⟩, ?_⟩
    · simpa [trim_of_trimsTo trims] using nonempty
    · rw [trim_of_trimsTo trims, String.ofList_toList]

theorem isEntry_of_mem_entries {separator : Char} {text name : String}
    (member : name ∈ entries separator text) : IsEntry separator name := by
  rw [entries_eq, mem_entriesOf] at member
  obtain ⟨nonempty, piece, cut, trimmed, before, after, split, -, -⟩ := member
  have whole : separator ∉ piece := by
    rw [← pieces_eq_splitOn] at cut
    exact not_mem_of_mem_pieces cut
  refine ⟨nonempty, fun inside => whole ?_, trimmed⟩
  rw [split]
  exact List.mem_append_left after (List.mem_append_right before inside)

/-! ## Writing entries -/

/-- Whether pieces hold exactly the given entries, each with blanks around it, and beside them nothing
but blanks. -/
inductive Spaced : List String → List String → Prop
  | nil : Spaced [] []
  | blank {names pieces : List String} {piece : String} (blank : isAllBlank piece = true)
      (rest : Spaced names pieces) : Spaced names (piece :: pieces)
  | entry {names pieces : List String} (before name after : String)
      (blankBefore : isAllBlank before = true) (blankAfter : isAllBlank after = true)
      (rest : Spaced names pieces) : Spaced (name :: names) ((before ++ name ++ after) :: pieces)

theorem Spaced.refl (names : List String) : Spaced names names := by
  induction names with
  | nil => exact .nil
  | cons name names ih => simpa using Spaced.entry "" name "" rfl rfl ih

section

variable {separator : Char} {names pieces : List String}

theorem Spaced.entriesOf_pieces (spaced : Spaced names pieces)
    (each : ∀ name ∈ names, IsEntry separator name) :
    entriesOf (pieces.map String.toList) = names := by
  induction spaced with
  | nil => rfl
  | blank blank rest ih =>
    rw [List.map_cons, entriesOf_cons_blank (trim_of_isAllBlank blank), ih each]
  | entry before name after blankBefore blankAfter rest ih =>
    obtain ⟨here, later⟩ := List.forall_mem_cons.mp each
    have trimmed : trim (before ++ name ++ after).toList = name.toList :=
      trim_of_trimsTo ⟨here.trimmed, before.toList, after.toList, by simp,
        List.all_eq_true.mp blankBefore, List.all_eq_true.mp blankAfter⟩
    rw [List.map_cons, entriesOf_cons_entry trimmed here.nonempty, ih later]

theorem Spaced.not_mem (spaced : Spaced names pieces)
    (each : ∀ name ∈ names, IsEntry separator name) (visible : isBlank separator = false) :
    ∀ piece ∈ pieces.map String.toList, separator ∉ piece := by
  have apart {text : String} (blank : isAllBlank text = true) : separator ∉ text.toList :=
    fun inside => Bool.eq_false_iff.mp visible (List.all_eq_true.mp blank separator inside)
  induction spaced with
  | nil => nofun
  | blank blank rest ih => exact List.forall_mem_cons.mpr ⟨apart blank, ih each⟩
  | entry before name after blankBefore blankAfter rest ih =>
    obtain ⟨here, later⟩ := List.forall_mem_cons.mp each
    refine List.forall_mem_cons.mpr ⟨?_, ih later⟩
    simp [apart blankBefore, here.whole, apart blankAfter]

/-- Entries are read as they were written. -/
theorem entries_intercalate (spaced : Spaced names pieces)
    (each : ∀ name ∈ names, IsEntry separator name) (visible : isBlank separator = false) :
    entries separator ((String.singleton separator).intercalate pieces) = names := by
  rw [entries_eq, String.toList_intercalate, String.toList_singleton]
  cases pieces with
  | nil =>
    cases spaced
    rfl
  | cons piece pieces =>
    rw [List.splitOn_intercalate separator (spaced.not_mem each visible) (List.cons_ne_nil _ _)]
    exact spaced.entriesOf_pieces each

end

end Transcript.Text
