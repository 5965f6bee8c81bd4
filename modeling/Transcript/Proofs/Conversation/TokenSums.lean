import Mathlib.Algebra.GroupWithZero.Nat
import Transcript.Proofs.Conversation.SecondDelivery

/-! # The totals are capped sums over the log

Counters that stop at the largest number forget nothing but what is beyond it: a chain of capped
additions is one sum that is capped at its end (`toNat_foldl_cappedAdd`). The totals of a reachable
conversation are therefore the capped sums of the usages of its texts, in whatever order these came,
and `total` agrees with the other two although it is counted apart.
-/

namespace Transcript

/-- The usages of the texts among messages; the usage of any other message does not count. -/
def usagesOf (ms : List Message) : List Usage :=
  ms.filterMap fun m =>
    match m.content with
    | .text _ => m.usage
    | _ => none

/-- The numbers that a usage adds to the total, in order. -/
def Usage.counts (u : Usage) : List UInt64 := [u.promptTokens, u.completionTokens]

/-! ## Capped additions -/

theorem toNat_le_size (a : UInt64) : a.toNat ≤ UInt64.size - 1 := by
  have bound := a.toNat_lt_size
  omega

theorem le_cappedAdd (a b : UInt64) : a ≤ cappedAdd a b := by
  have bound := toNat_le_size a
  rw [UInt64.le_iff_toNat_le, toNat_cappedAdd]
  omega

/-- Capping on the way is capping at the end. -/
theorem toNat_foldl_cappedAdd (counts : List UInt64) (a : UInt64) :
    (counts.foldl cappedAdd a).toNat =
      min (a.toNat + (counts.map UInt64.toNat).sum) (UInt64.size - 1) := by
  induction counts generalizing a with
  | nil =>
    have bound := toNat_le_size a
    simp only [List.foldl_nil, List.map_nil, List.sum_nil]
    omega
  | cons count rest ih =>
    rw [List.foldl_cons, ih, toNat_cappedAdd, List.map_cons, List.sum_cons]
    omega

namespace TokenTotals

/-- Whether no counter of the later totals is behind. -/
def AtMost (t later : TokenTotals) : Prop :=
  t.total ≤ later.total ∧ t.input ≤ later.input ∧ t.output ≤ later.output

theorem AtMost.refl (t : TokenTotals) : t.AtMost t :=
  ⟨UInt64.le_refl _, UInt64.le_refl _, UInt64.le_refl _⟩

theorem AtMost.trans {t next later : TokenTotals} (first : t.AtMost next)
    (second : next.AtMost later) : t.AtMost later :=
  ⟨UInt64.le_trans first.1 second.1, UInt64.le_trans first.2.1 second.2.1,
    UInt64.le_trans first.2.2 second.2.2⟩

/-- Every counter of the totals is a chain of capped additions of its own. -/
theorem foldl_record (usages : List Usage) (t : TokenTotals) :
    usages.foldl record t =
      ⟨(usages.flatMap Usage.counts).foldl cappedAdd t.total,
        (usages.map Usage.promptTokens).foldl cappedAdd t.input,
        (usages.map Usage.completionTokens).foldl cappedAdd t.output⟩ := by
  induction usages generalizing t with
  | nil => rfl
  | cons usage rest ih => rw [List.foldl_cons, ih]; rfl

theorem sum_counts (usages : List Usage) :
    ((usages.flatMap Usage.counts).map UInt64.toNat).sum =
      (usages.map fun u => u.promptTokens.toNat).sum +
        (usages.map fun u => u.completionTokens.toNat).sum := by
  induction usages with
  | nil => rfl
  | cons usage rest ih =>
    simp only [List.flatMap_cons, List.map_append, List.sum_append, ih, List.map_cons, List.sum_cons,
      Usage.counts, List.map_nil, List.sum_nil]
    omega

/-- The totals of usages are their capped sums. -/
theorem toNat_foldl_record (usages : List Usage) :
    let t := usages.foldl record zero
    let prompts := (usages.map fun u => u.promptTokens.toNat).sum
    let completions := (usages.map fun u => u.completionTokens.toNat).sum
    t.input.toNat = min prompts (UInt64.size - 1) ∧
      t.output.toNat = min completions (UInt64.size - 1) ∧
      t.total.toNat = min (prompts + completions) (UInt64.size - 1) := by
  intro t prompts completions
  have nothing : (0 : UInt64).toNat = 0 := rfl
  simp only [t, foldl_record, zero, toNat_foldl_cappedAdd, sum_counts, List.map_map, nothing,
    Nat.zero_add]
  exact ⟨rfl, rfl, rfl⟩

/-- The order of usages does not matter. -/
theorem foldl_record_perm {usages others : List Usage} (reordered : others.Perm usages) :
    others.foldl record zero = usages.foldl record zero := by
  have prompts := (reordered.map fun u => u.promptTokens.toNat).sum_nat
  have completions := (reordered.map fun u => u.completionTokens.toNat).sum_nat
  obtain ⟨input, output, total⟩ := toNat_foldl_record usages
  obtain ⟨input', output', total'⟩ := toNat_foldl_record others
  rw [prompts, ← input] at input'
  rw [completions, ← output] at output'
  rw [prompts, completions, ← total] at total'
  calc
    others.foldl record zero
      = ⟨(others.foldl record zero).total, (others.foldl record zero).input,
          (others.foldl record zero).output⟩ := rfl
    _ = usages.foldl record zero := by
      rw [UInt64.toNat_inj.mp input', UInt64.toNat_inj.mp output', UInt64.toNat_inj.mp total']

theorem atMost_enter (t : TokenTotals) (m : Message) : t.AtMost (t.enter m) := by
  unfold enter
  split
  · next usage _ _ =>
    refine ⟨?_, le_cappedAdd _ _, le_cappedAdd _ _⟩
    exact UInt64.le_trans (le_cappedAdd _ usage.promptTokens) (le_cappedAdd _ _)
  · exact .refl t

end TokenTotals

namespace Log

theorem atMost_foldl_enter (ms : List Message) (l : Log) :
    l.tokens.AtMost (ms.foldl enter l).tokens := by
  induction ms generalizing l with
  | nil => exact .refl l.tokens
  | cons m rest ih => exact (l.tokens.atMost_enter m).trans (ih (l.enter m))

/-- The totals of a rebuilt log are those of the usages of its texts. -/
theorem Rebuilt.tokens {l : Log} (rebuilt : l.Rebuilt) :
    l.tokens = (usagesOf l.messages).foldl TokenTotals.record .zero := by
  apply rebuilt.invariant
    (P := fun l => l.tokens = (usagesOf l.messages).foldl TokenTotals.record .zero) rfl
  intro l m same _
  change l.tokens.enter m = (usagesOf (l.messages ++ [m])).foldl TokenTotals.record .zero
  rw [usagesOf, List.filterMap_append, List.foldl_append, ← usagesOf, ← same]
  obtain ⟨id, source, content, usage⟩ := m
  cases content with
  | text body => cases usage <;> rfl
  | _ => rfl

end Log

namespace Conversation

theorem atMost_feed (inputs : List Input) (c : Conversation) :
    c.tokens.AtMost (feed inputs c).1.tokens := by
  induction inputs using List.reverseRecOn with
  | nil => exact .refl c.tokens
  | append_singleton rest last ih =>
    refine ih.trans ?_
    rw [feed_concat, update_fst]
    split
    · exact .refl _
    · exact Log.atMost_foldl_enter (finished _ _) (log _)

/-- The totals of a reachable conversation are the capped sums of the usages of the texts in its log,
whatever their order; they never fall while a stream is taken, and a second delivery adds nothing. -/
theorem tokens_eq_sums (settings : Settings) (operations : List Operation) :
    let c := (run operations (new settings)).1
    let usages := usagesOf c.messages.toList
    let prompts := (usages.map fun u => u.promptTokens.toNat).sum
    let completions := (usages.map fun u => u.completionTokens.toNat).sum
    c.tokens.input.toNat = min prompts (UInt64.size - 1) ∧
      c.tokens.output.toNat = min completions (UInt64.size - 1) ∧
      c.tokens.total.toNat = min (prompts + completions) (UInt64.size - 1) ∧
      c.tokens.total = cappedAdd c.tokens.input c.tokens.output ∧
      (∀ others : List Usage, others.Perm usages → others.foldl TokenTotals.record .zero = c.tokens) ∧
      (∀ inputs, c.tokens.AtMost (feed inputs c).1.tokens) ∧
      ∀ frame, c.knows (.ofFrame settings.defaultSource frame) = true →
        (ingest frame c).1.tokens = c.tokens := by
  intro c usages prompts completions
  have rebuilt : c.log.Rebuilt := rebuilt_run settings operations
  have same : c.settings = settings := settings_run operations (new settings)
  have counted : c.tokens = usages.foldl TokenTotals.record .zero := rebuilt.tokens
  obtain ⟨input, output, total⟩ := TokenTotals.toNat_foldl_record usages
  rw [← counted] at input output total
  refine ⟨input, output, total, ?_, ?_, fun inputs => atMost_feed inputs c, ?_⟩
  · apply UInt64.toNat_inj.mp
    rw [toNat_cappedAdd, total, input, output]
    omega
  · intro others reordered
    rw [counted, TokenTotals.foldl_record_perm reordered]
  · intro frame known
    have again : c.isDuplicate (.ofFrame c.settings.defaultSource frame) = true := by
      rw [isDuplicate_eq rebuilt, same, known]
    rw [ingest_of_isDuplicate again]

def countedText (id : String) (prompts completions : Int) : Frame :=
  .envelope (.obj [("id", .str id), ("content", .str "Done"),
    ("models_usage", .obj [("completion_tokens", .num (.int completions)),
      ("prompt_tokens", .num (.int prompts))])])

/-- Texts whose tokens are more than can be counted, one of them twice. -/
def overCounted : List Operation :=
  [.input (.frame (countedText "m1" 7 2)),
    .input (.frame (countedText "m2" 18446744073709551615 1)),
    .input (.frame (countedText "m1" 7 2))]

theorem tokens_eq_sums_overCounted :
    let c := (run overCounted (new .default)).1
    let usages : List Usage := [⟨18446744073709551615, 1⟩, ⟨7, 2⟩]
    c.tokens = ⟨18446744073709551615, 18446744073709551615, 3⟩ ∧
      usages.Perm (usagesOf c.messages.toList) ∧
      usages.foldl TokenTotals.record .zero = c.tokens ∧
      (ingest (countedText "m2" 5 5) c).1.tokens = c.tokens := by
  have shown := tokens_eq_sums .default overCounted
  have reordered : [⟨18446744073709551615, 1⟩, ⟨7, 2⟩].Perm
      (usagesOf (run overCounted (new .default)).1.messages.toList) := by decide +kernel
  refine ⟨by decide +kernel, reordered, shown.2.2.2.2.1 _ reordered, ?_⟩
  exact shown.2.2.2.2.2.2 (countedText "m2" 5 5) (by decide +kernel)

end Conversation

end Transcript
