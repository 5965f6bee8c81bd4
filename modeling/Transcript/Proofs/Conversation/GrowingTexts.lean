import Transcript.Conversation.Streaming
import Mathlib.Data.List.DropRight
import Mathlib.Data.List.Nodup

/-! # Growing texts are a map in the order of first pieces

Whatever is done with growing texts, what they hold can be told from the operations alone: a source is
there exactly if it has said something since its text was last removed (`said`), its text is what it said
since then, and the sources stand in the order in which these texts began (`opening`). A source that is
taken and speaks again therefore comes last. The induction goes along the operations, with one lemma for
each part of a step (`Tells`).
-/

namespace Transcript

namespace Keyed

variable {κ α : Type} [DecidableEq κ]

theorem keys_erase (m : Keyed κ α) (key : κ) : (m.erase key).keys = m.keys.erase key := by
  have flipped : (fun other => other == key) = fun other => key == other := by
    funext other
    exact Bool.beq_comm
  rw [keys, keys, List.erase_eq_eraseP, ← flipped, List.eraseP_map]
  rfl

theorem mem_keys_iff (m : Keyed κ α) (key : κ) : key ∈ m.keys ↔ m.get? key ≠ none := by
  change key ∈ m.entries.map Prod.fst ↔ find? key m.entries ≠ none
  generalize m.entries = entries
  induction entries with
  | nil => simp [find?]
  | cons entry rest ih =>
    rw [List.map_cons, List.mem_cons, ih, find?]
    by_cases here : entry.1 = key
    · simp [here]
    · simp [here, Ne.symm here]

/-- A map is told by its keys and their values. -/
theorem entries_eq_map {m : Keyed κ α} {value : κ → α}
    (known : ∀ key ∈ m.keys, m.get? key = some (value key)) :
    m.entries = m.keys.map fun key => (key, value key) := by
  obtain ⟨entries, distinct⟩ := m
  change ∀ key ∈ entries.map Prod.fst, find? key entries = some (value key) at known
  change entries = (entries.map Prod.fst).map fun key => (key, value key)
  induction entries with
  | nil => rfl
  | cons entry rest ih =>
    obtain ⟨k, a⟩ := entry
    rw [List.map_cons, List.forall_mem_cons] at known
    obtain ⟨absent, distinct⟩ := List.nodup_cons.mp distinct
    obtain ⟨here, later⟩ := known
    have first : a = value k := by simpa [find?] using here
    have others : ∀ key ∈ rest.map Prod.fst, find? key rest = some (value key) := by
      intro key member
      have different : k ≠ key := fun same => absent (same ▸ member)
      simpa [find?, different] using later key member
    rw [List.map_cons, List.map_cons, ← ih distinct others, first]

end Keyed

namespace Streaming

inductive Operation where
  | push (source piece : String)
  | take (source : String)
  | drain
  | clear
deriving DecidableEq, Repr

def carryOut (s : Streaming) : Operation → Streaming
  | .push source piece => s.push source piece
  | .take source => (s.take source).2
  | .drain => s.drain.2
  | .clear => ∅

def ofOperations (operations : List Operation) : Streaming := operations.foldl carryOut ∅

/-- Whether the text of a source is gone after the operation. -/
def Operation.removes (source : String) : Operation → Bool
  | .push .. => false
  | .take other => other = source
  | .drain | .clear => true

def Operation.pieceOf? (source : String) : Operation → Option String
  | .push other piece => if other = source then some piece else none
  | .take _ | .drain | .clear => none

/-- The operations since the last one that removed the text of a source. -/
def sinceRemoval (operations : List Operation) (source : String) : List Operation :=
  operations.rtakeWhile fun operation => !operation.removes source

/-- What a source has said since its text was last removed. -/
def said (operations : List Operation) (source : String) : List String :=
  (sinceRemoval operations source).filterMap (Operation.pieceOf? source)

/-- The number of operations before the one with which the text of a source began. -/
def opening (operations : List Operation) (source : String) : Nat :=
  operations.length - (sinceRemoval operations source).length +
    (sinceRemoval operations source).findIdx fun operation => (operation.pieceOf? source).isSome

/-- What pieces make, if there are any. -/
def textOf? (pieces : List String) : Option String :=
  if pieces = [] then none else some (String.join pieces)

/-! ## One more operation -/

section Step

variable (operations : List Operation) (operation : Operation) (source : String)

theorem sinceRemoval_concat :
    sinceRemoval (operations ++ [operation]) source =
      if operation.removes source then [] else sinceRemoval operations source ++ [operation] := by
  rw [sinceRemoval, List.rtakeWhile_concat]
  cases operation.removes source <;> rfl

theorem said_concat :
    said (operations ++ [operation]) source =
      if operation.removes source then []
      else said operations source ++ (operation.pieceOf? source).toList := by
  rw [said, sinceRemoval_concat]
  split
  · rfl
  · rw [List.filterMap_append]
    cases spoken : operation.pieceOf? source <;> simp [said, spoken]

theorem length_sinceRemoval_le : (sinceRemoval operations source).length ≤ operations.length :=
  (List.rtakeWhile_suffix _ operations).length_le

variable {operations source}

/-- A source that has said something said it first at some place. -/
theorem findIdx_lt_of_said (spoken : said operations source ≠ []) :
    (sinceRemoval operations source).findIdx (fun operation => (operation.pieceOf? source).isSome) <
      (sinceRemoval operations source).length := by
  obtain ⟨piece, member⟩ := List.exists_mem_of_ne_nil _ spoken
  obtain ⟨operation, there, said⟩ := List.mem_filterMap.mp member
  exact List.findIdx_lt_length_of_exists ⟨operation, there, by rw [said]; rfl⟩

theorem opening_lt (spoken : said operations source ≠ []) :
    opening operations source < operations.length := by
  have place := findIdx_lt_of_said spoken
  have bound := length_sinceRemoval_le operations source
  unfold opening
  omega

/-- A text that stays has begun where it had. -/
theorem opening_concat (stays : operation.removes source = false)
    (spoken : said operations source ≠ []) :
    opening (operations ++ [operation]) source = opening operations source := by
  have place := findIdx_lt_of_said spoken
  rw [opening, sinceRemoval_concat, stays, if_neg Bool.false_ne_true, List.findIdx_append, if_pos place,
    List.length_append, List.length_append, List.length_singleton, Nat.add_sub_add_right, opening]

/-- A source that was silent begins its text with the operation in which it speaks. -/
theorem opening_concat_of_silent {piece : String} (silent : said operations source = []) :
    opening (operations ++ [.push source piece]) source = operations.length := by
  have bound := length_sinceRemoval_le operations source
  have nothing : (sinceRemoval operations source).findIdx
      (fun operation => (operation.pieceOf? source).isSome) = (sinceRemoval operations source).length := by
    rw [List.findIdx_eq_length]
    intro operation member
    simp [List.filterMap_eq_nil_iff.mp silent operation member]
  have stays : (Operation.push source piece).removes source = false := rfl
  have speaks : ((Operation.push source piece).pieceOf? source).isSome = true := by
    simp [Operation.pieceOf?]
  rw [opening, sinceRemoval_concat, stays, if_neg Bool.false_ne_true, List.findIdx_append, nothing,
    if_neg (Nat.lt_irrefl _), List.findIdx_cons, speaks]
  simp only [List.length_append, List.length_singleton, cond_true]
  omega

end Step

theorem textOf?_concat (pieces : List String) (piece : String) :
    textOf? (pieces ++ [piece]) = some ((textOf? pieces).getD "" ++ piece) := by
  unfold textOf?
  rw [if_neg (List.append_ne_nil_of_right_ne_nil _ (by simp)), String.join_append]
  split
  · next silent => rw [silent]; simp [String.join]
  · simp [String.join]

/-! ## The growing texts follow -/

/-- Whether growing texts are the ones that operations have left. -/
structure Tells (s : Streaming) (operations : List Operation) : Prop where
  text : ∀ source, s.pending source = textOf? (said operations source)
  ordered : s.buffers.keys.Pairwise fun earlier later =>
    opening operations earlier < opening operations later

namespace Tells

variable {s : Streaming} {operations : List Operation}

theorem mem_keys_iff (tells : s.Tells operations) (source : String) :
    source ∈ s.buffers.keys ↔ said operations source ≠ [] := by
  have text : s.buffers.get? source = textOf? (said operations source) := tells.text source
  rw [Keyed.mem_keys_iff, text, textOf?]
  split <;> simp_all

/-- The order stays where texts stay. -/
theorem ordered_concat (tells : s.Tells operations) (operation : Operation) {sources : List String}
    (kept : sources.Sublist s.buffers.keys) (stay : ∀ source ∈ sources, operation.removes source = false) :
    sources.Pairwise fun earlier later =>
      opening (operations ++ [operation]) earlier < opening (operations ++ [operation]) later := by
  have spoken : ∀ source ∈ sources, said operations source ≠ [] :=
    fun source member => (tells.mem_keys_iff source).mp (kept.subset member)
  apply (tells.ordered.sublist kept).imp_of_mem
  intro earlier later first second before
  rwa [opening_concat operation (stay earlier first) (spoken earlier first),
    opening_concat operation (stay later second) (spoken later second)]

theorem push (tells : s.Tells operations) (source piece : String) :
    (s.push source piece).Tells (operations ++ [.push source piece]) where
  text other := by
    rw [said_concat, Operation.removes, if_neg Bool.false_ne_true, Operation.pieceOf?]
    by_cases here : source = other
    · subst here
      rw [if_pos rfl, Option.toList_some, textOf?_concat, ← tells.text, pending_push_self]
    · rw [if_neg here, Option.toList_none, List.append_nil, ← tells.text, pending_push_of_ne s here]
  ordered := by
    have stay := tells.ordered_concat (.push source piece) (List.Sublist.refl _)
      fun _ _ => rfl
    change (s.buffers.set source _).keys.Pairwise _
    rw [Keyed.keys_set]
    split
    · exact stay
    · next absent =>
      -- A new text begins after every other one that is growing.
      have silent : said operations source = [] := by
        by_contra spoken
        exact absent ((tells.mem_keys_iff source).mpr spoken)
      refine List.pairwise_append.mpr ⟨stay, List.pairwise_singleton _ _, ?_⟩
      intro earlier member later last
      obtain rfl := List.mem_singleton.mp last
      have spoken := (tells.mem_keys_iff earlier).mp member
      rw [opening_concat_of_silent silent, opening_concat _ rfl spoken]
      exact opening_lt spoken

theorem take (tells : s.Tells operations) (source : String) :
    (s.take source).2.Tells (operations ++ [.take source]) where
  text other := by
    rw [said_concat, Operation.removes, Operation.pieceOf?, Option.toList_none, List.append_nil]
    by_cases here : source = other
    · subst here
      rw [decide_eq_true rfl, if_pos rfl, pending_take_self]
      rfl
    · rw [decide_eq_false here, if_neg Bool.false_ne_true, ← tells.text, pending_take_of_ne s here]
  ordered := by
    change (s.buffers.erase source).keys.Pairwise _
    rw [Keyed.keys_erase]
    apply tells.ordered_concat _ List.erase_sublist
    intro other member
    have different : other ≠ source := ((List.Nodup.mem_erase_iff s.buffers.distinct).mp member).1
    simpa [Operation.removes] using different.symm

/-- An operation that removes every text leaves none. -/
theorem of_removes_all {operation : Operation} (all : ∀ source, operation.removes source = true) :
    (∅ : Streaming).Tells (operations ++ [operation]) where
  text source := by
    rw [said_concat, all, if_pos rfl]
    rfl
  ordered := List.Pairwise.nil

theorem carryOut (tells : s.Tells operations) (operation : Operation) :
    (s.carryOut operation).Tells (operations ++ [operation]) := by
  cases operation with
  | push source piece => exact tells.push source piece
  | take source => exact tells.take source
  | drain => exact of_removes_all fun _ => rfl
  | clear => exact of_removes_all fun _ => rfl

/-- The sources in order, each with what it said. -/
theorem toList_eq (tells : s.Tells operations) :
    s.toList = s.buffers.keys.map fun source => (source, String.join (said operations source)) := by
  apply Keyed.entries_eq_map
  intro source member
  have text : s.buffers.get? source = textOf? (said operations source) := tells.text source
  rw [text, textOf?, if_neg ((tells.mem_keys_iff source).mp member)]

end Tells

theorem tells_ofOperations (operations : List Operation) : (ofOperations operations).Tells operations := by
  induction operations using List.reverseRecOn with
  | nil => exact ⟨fun _ => rfl, List.Pairwise.nil⟩
  | append_singleton rest operation ih =>
    rw [ofOperations, List.foldl_concat]
    exact ih.carryOut operation

/-- After any operations there is a text exactly for every source that has said something since its text
was last removed. The texts stand in the order in which they began, no source comes twice, and every text
is what its source has said since then, in order. Taking the text of a source gives this text and leaves
out its entry and nothing else; draining gives all entries and leaves none. -/
theorem buffers_eq_said (operations : List Operation) :
    ∃ sources : List String,
      sources.Nodup ∧ (∀ source, source ∈ sources ↔ said operations source ≠ []) ∧
      (sources.Pairwise fun earlier later => opening operations earlier < opening operations later) ∧
      let s := ofOperations operations
      let buffers := sources.map fun source => (source, String.join (said operations source))
      s.toList = buffers ∧
      (∀ source, s.pending source = textOf? (said operations source) ∧
        (s.take source).1 = textOf? (said operations source) ∧
        (s.take source).2.toList = buffers.eraseP fun buffer => buffer.1 = source) ∧
      s.drain = (buffers, ∅) := by
  have tells := tells_ofOperations operations
  refine ⟨(ofOperations operations).buffers.keys, (ofOperations operations).buffers.distinct,
    tells.mem_keys_iff, tells.ordered,
    tells.toList_eq, ?_, by rw [drain, tells.toList_eq]⟩
  intro source
  refine ⟨tells.text source, tells.text source, ?_⟩
  rw [← tells.toList_eq]
  rfl

/-- A source that is taken and speaks again comes last. -/
example :
    (ofOperations [.push "a" "He", .push "b" "Wor", .push "a" "y", .take "a", .push "a" "Hi"]).toList =
      [("b", "Wor"), ("a", "Hi")] := by
  decide

end Streaming

end Transcript
