import Transcript.Conversation.Streaming
import Transcript.Proofs.FirstBy

/-! # Growing texts as the pieces they came in

The growing texts are what joining the pieces that came, source by source, makes of them (`joined`):
the sources in the order of their first pieces, each with its own pieces in order. A piece that is
pushed is one more piece at the end, and taking a text leaves out the pieces of its source
(`toList_push`, `toList_take`).
-/

namespace Transcript

/-- What a source said in a piece. -/
abbrev Piece : Type := String × String

def textsBy (pieces : List Piece) (source : String) : List String :=
  (pieces.filter fun piece => piece.1 = source).map Prod.snd

/-- The sources of pieces, in the order of their first ones. -/
def speakers (pieces : List Piece) : List String := firstBy some (pieces.map Prod.fst)

/-- The texts that pieces make, source by source. -/
def joined (pieces : List Piece) : List (String × String) :=
  (speakers pieces).map fun source => (source, String.join (textsBy pieces source))

/-- The text that the pieces of a source make, if there are any. -/
def grown (pieces : List Piece) (source : String) : Option String :=
  match textsBy pieces source with
  | [] => none
  | texts => some (String.join texts)

theorem textsBy_concat (pieces : List Piece) (piece : Piece) (source : String) :
    textsBy (pieces ++ [piece]) source =
      textsBy pieces source ++ if piece.1 = source then [piece.2] else [] := by
  by_cases same : piece.1 = source <;> simp [textsBy, same]

theorem textsBy_filter_ne (pieces : List Piece) {source other : String} (different : other ≠ source) :
    textsBy (pieces.filter fun piece => piece.1 ≠ source) other = textsBy pieces other := by
  rw [textsBy, List.filter_filter, textsBy]
  congr 1
  apply List.filter_congr
  intro piece _
  by_cases same : piece.1 = other <;> simp [same, different]

theorem mem_speakers {pieces : List Piece} {source : String} :
    source ∈ speakers pieces ↔ source ∈ pieces.map Prod.fst := by
  simpa [speakers] using mem_filterMap_firstBy some (pieces.map Prod.fst) source

theorem nodup_speakers (pieces : List Piece) : (speakers pieces).Nodup := by
  simpa [speakers] using nodup_firstBy some (pieces.map Prod.fst)

theorem textsBy_eq_nil_iff {pieces : List Piece} {source : String} :
    textsBy pieces source = [] ↔ source ∉ speakers pieces := by
  rw [mem_speakers]
  simp only [textsBy, List.map_eq_nil_iff, List.filter_eq_nil_iff, decide_eq_true_eq, List.mem_map,
    not_exists, not_and]

theorem grown_eq (pieces : List Piece) (source : String) :
    grown pieces source =
      if source ∈ speakers pieces then some (String.join (textsBy pieces source)) else none := by
  unfold grown
  split
  · next silent => rw [if_neg (textsBy_eq_nil_iff.mp silent)]
  · next spoken =>
    have member : source ∈ speakers pieces := by
      by_contra absent
      exact spoken (textsBy_eq_nil_iff.mpr absent)
    rw [if_pos member]

theorem speakers_concat (pieces : List Piece) (piece : Piece) :
    speakers (pieces ++ [piece]) =
      if piece.1 ∈ speakers pieces then speakers pieces else speakers pieces ++ [piece.1] := by
  have known : repeats some (pieces.map Prod.fst) piece.1 = true ↔ piece.1 ∈ speakers pieces := by
    rw [repeats_iff, mem_speakers]
    simp
  rw [speakers, List.map_append, List.map_singleton, firstBy_concat]
  simp only [known]
  rfl

theorem speakers_filter (p : String → Bool) (pieces : List Piece) :
    speakers (pieces.filter fun piece => p piece.1) = (speakers pieces).filter p := by
  induction pieces using List.reverseRecOn with
  | nil => rfl
  | append_singleton rest piece ih =>
    rw [List.filter_append, speakers_concat, List.filter_cons, List.filter_nil]
    cases kept : p piece.1 with
    | false =>
      rw [if_neg Bool.false_ne_true, List.append_nil, ih]
      split <;> simp [kept]
    | true =>
      rw [if_pos rfl, speakers_concat, ih]
      split <;> simp_all

/-! ## The steps of the growing texts -/

namespace Keyed

/-- As no key comes twice, erasing one leaves out all of its entries. -/
theorem entries_erase {κ α : Type} [DecidableEq κ] (m : Keyed κ α) (key : κ) :
    (m.erase key).entries = m.entries.filter fun entry => entry.1 ≠ key := by
  obtain ⟨entries, distinct⟩ := m
  change entries.eraseP (fun entry => entry.1 = key) = entries.filter fun entry => entry.1 ≠ key
  induction entries with
  | nil => rfl
  | cons entry rest ih =>
    obtain ⟨absent, distinct⟩ := List.nodup_cons.mp distinct
    by_cases here : entry.1 = key
    · have others : rest.filter (fun entry => entry.1 ≠ key) = rest := by
        rw [List.filter_eq_self]
        intro other member
        have different : other.1 ≠ key :=
          fun same => absent (here ▸ same ▸ List.mem_map_of_mem member)
        simpa using different
      simpa [List.eraseP_cons, here] using others.symm
    · simpa [List.eraseP_cons, here] using ih distinct

theorem find?_map_pair {κ α : Type} [DecidableEq κ] (keys : List κ) (f : κ → α) (key : κ) :
    find? key (keys.map fun k => (k, f k)) = if key ∈ keys then some (f key) else none := by
  induction keys with
  | nil => rfl
  | cons k rest ih =>
    rw [List.map_cons, find?, ih]
    by_cases same : k = key
    · simp [same]
    · simp [same, Ne.symm same]

theorem put_map_pair {κ α : Type} [DecidableEq κ] {keys : List κ} (distinct : keys.Nodup)
    (f : κ → α) (key : κ) (value : α) :
    put key value (keys.map fun k => (k, f k)) =
      (if key ∈ keys then keys else keys ++ [key]).map fun k =>
        (k, if k = key then value else f k) := by
  induction keys with
  | nil => simp [put]
  | cons k rest ih =>
    obtain ⟨absent, distinct⟩ := List.nodup_cons.mp distinct
    rw [List.map_cons, put]
    by_cases same : k = key
    · subst same
      have others : ∀ other ∈ rest, (other, f other) = (other, if other = k then value else f other) := by
        intro other member
        rw [if_neg (fun same : other = k => absent (same ▸ member))]
      simp [List.map_congr_left others]
    · rw [if_neg same, ih distinct]
      by_cases member : key ∈ rest <;> simp [same, Ne.symm same, member]

end Keyed

theorem getD_grown (pieces : List Piece) (source : String) :
    (grown pieces source).getD "" = String.join (textsBy pieces source) := by
  unfold grown
  split
  · next silent => rw [silent]; rfl
  · rfl

theorem pending_of_toList {s : Streaming} {pieces : List Piece} (same : s.toList = joined pieces)
    (source : String) : s.pending source = grown pieces source := by
  change Keyed.find? source s.toList = grown pieces source
  rw [same, joined, Keyed.find?_map_pair, grown_eq]

theorem toList_push {s : Streaming} {pieces : List Piece} (same : s.toList = joined pieces)
    (source piece : String) :
    (s.push source piece).toList = joined (pieces ++ [(source, piece)]) := by
  change Keyed.put source ((s.pending source).getD "" ++ piece) s.toList = _
  rw [pending_of_toList same, getD_grown, same, joined, Keyed.put_map_pair (nodup_speakers pieces), joined,
    speakers_concat]
  apply List.map_congr_left
  intro other _
  rw [textsBy_concat, String.join_append]
  by_cases here : other = source
  · subst here; simp [String.join]
  · simp [here, Ne.symm here, String.join]

theorem toList_take {s : Streaming} {pieces : List Piece} (same : s.toList = joined pieces)
    (source : String) :
    (s.take source).2.toList = joined (pieces.filter fun piece => piece.1 ≠ source) := by
  have others : (s.take source).2.toList = s.toList.filter fun entry => entry.1 ≠ source :=
    Keyed.entries_erase s.buffers source
  have order := speakers_filter (fun other => other ≠ source) pieces
  rw [others, same, joined, joined, order, List.filter_map]
  apply List.map_congr_left
  intro other member
  have different : other ≠ source := by simpa using (List.mem_filter.mp member).2
  rw [textsBy_filter_ne pieces different]

end Transcript
