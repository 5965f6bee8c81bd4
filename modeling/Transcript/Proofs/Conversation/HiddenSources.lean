import Transcript.Conversation.Snapshot
import Transcript.Proofs.Conversation.Log
import Transcript.Proofs.Conversation.Unread

/-! # Hiding a source is a matter of showing

Which sources are hidden is in the settings of a conversation, but no operation reads it: with other
hidden sources every history is the same, in what it makes and in what it tells (`run_withHidden`). A
snapshot of it lacks the messages and growing texts of the hidden sources and is otherwise the same as
one in which nothing is hidden (`snapshot_withHidden`): what is left keeps its number, its place and its
records.
-/

namespace Transcript

def Settings.withHidden (settings : Settings) (hidden : List String) : Settings :=
  { settings with hiddenSources := hidden }

/-- The snapshot without the messages and growing texts of hidden sources. -/
def Snapshot.without (s : Snapshot) (hidden : List String) : Snapshot :=
  { s with
    messages := s.messages.filter fun shown => shown.message.source ∉ hidden
    streaming := s.streaming.filter fun buffer => buffer.1 ∉ hidden }

namespace Conversation

def withHidden (hidden : List String) (c : Conversation) : Conversation :=
  { c with settings := c.settings.withHidden hidden }

/-! ## Histories -/

/-- A restart takes the settings over and does not read which sources are hidden. -/
theorem unaware_restart (hidden : List String) (again : Restart) :
    Unaware (withHidden hidden) again.update := by
  intro c
  cases again with
  | reset => rfl
  | beginRun runId => rfl
  | load stored =>
    have cleared : (c.withHidden hidden).cleared = c.cleared.withHidden hidden := rfl
    refine Prod.ext ?_ rfl
    change (load stored (c.withHidden hidden)).1 = (load stored c).1.withHidden hidden
    rw [load_fst, load_fst, cleared]
    rfl

/-- No operation reads which sources are hidden. -/
theorem unaware_operation (hidden : List String) (operation : Operation) :
    Unaware (withHidden hidden) operation.update := by
  cases operation with
  | input x =>
    have unaware : Unaware (elsewhere (fun settings => settings.withHidden hidden) id) x.update :=
      .input (by intro settings; rfl) x
    exact unaware
  | restart again => exact unaware_restart hidden again

/-- Nor does a history. -/
theorem run_withHidden (hidden : List String) (operations : List Operation) :
    Unaware (withHidden hidden) (run operations) := by
  apply Unaware.all
  intro update member
  obtain ⟨operation, -, rfl⟩ := List.mem_map.mp member
  exact unaware_operation hidden operation

/-! ## Snapshots -/

variable (c : Conversation)

/-- Where no source is hidden, the whole log is shown. -/
theorem visible_withHidden_nil :
    (c.withHidden []).visible = c.messages.toList.zipIdx.map fun (m, seq) => (seq, m) := by
  unfold visible
  rw [← List.filterMap_eq_map]
  rfl

/-- Of the log, the messages of hidden sources are left out. -/
theorem visible_withHidden (hidden : List String) :
    (c.withHidden hidden).visible =
      (c.withHidden []).visible.filter fun (_, m) => m.source ∉ hidden := by
  rw [visible_withHidden_nil, List.filter_map, ← List.filterMap_eq_map, List.filterMap_filter]
  unfold visible
  congr 1
  funext ⟨m, seq⟩
  have same : (c.withHidden hidden).settings.isHidden m.source = decide (m.source ∈ hidden) :=
    List.contains_eq_mem m.source hidden
  by_cases hides : m.source ∈ hidden
  · simp [same, hides]
  · simp [same, hides]

/-- A snapshot lacks what is hidden, and nothing else. -/
theorem snapshot_withHidden (hidden : List String) :
    (c.withHidden hidden).snapshot = (c.withHidden []).snapshot.without hidden := by
  have messages : (c.withHidden hidden).snapshot.messages =
      ((c.withHidden []).snapshot.without hidden).messages := by
    change (c.withHidden hidden).visible.map _ = ((c.withHidden []).visible.map _).filter _
    rw [visible_withHidden, List.filter_map]
    -- A message is shown with its records, and those do not depend on what is hidden.
    rfl
  have streaming : (c.withHidden hidden).snapshot.streaming =
      ((c.withHidden []).snapshot.without hidden).streaming := by
    change (c.streaming.toList.filter _) = (c.streaming.toList.filter _).filter _
    rw [List.filter_filter]
    apply List.filter_congr
    intro buffer _
    simp [Settings.isHidden, withHidden, Settings.withHidden]
  change Snapshot.mk _ _ _ (c.withHidden hidden).snapshot.messages
    (c.withHidden hidden).snapshot.streaming = _
  rw [messages, streaming]
  rfl

/-- Two histories of the same operations, under settings that differ in the hidden sources alone, tell
the same and make the same of everything; and a snapshot of either is one of the history in which
nothing is hidden, with all messages of the log under their numbers and with all growing texts, less
those whose source is hidden. -/
theorem hidden_sources_only_filter (settings : Settings) (hidden hidden' : List String)
    (operations : List Operation) :
    let told := run operations (new { settings with hiddenSources := hidden })
    let told' := run operations (new { settings with hiddenSources := hidden' })
    let c := told.1
    let c' := told'.1
    let open_ := (run operations (new { settings with hiddenSources := [] })).1.snapshot
    told.2 = told'.2 ∧ c = { c' with settings := { settings with hiddenSources := hidden } } ∧
      c.messages = c'.messages ∧ c.status = c'.status ∧ c.tokens = c'.tokens ∧ c.epoch = c'.epoch ∧
      c.streaming = c'.streaming ∧ (∀ source m, c.recordsFor source m = c'.recordsFor source m) ∧
      c.unresolvedCalls = c'.unresolvedCalls ∧
      open_.messages = c.messages.toList.zipIdx.map (fun (m, seq) => c.shown seq m) ∧
      open_.streaming = c.streaming.toList ∧
      c.snapshot = { open_ with
        messages := open_.messages.filter fun shown => shown.message.source ∉ hidden
        streaming := open_.streaming.filter fun buffer => buffer.1 ∉ hidden } := by
  intro told told' c c' open_
  let base := run operations (new { settings with hiddenSources := [] })
  have hides (other : List String) : run operations (new { settings with hiddenSources := other }) =
      (base.1.withHidden other, base.2) :=
    run_withHidden other operations (new { settings with hiddenSources := [] })
  have first : told = (base.1.withHidden hidden, base.2) := hides hidden
  have second : told' = (base.1.withHidden hidden', base.2) := hides hidden'
  have nothing : base.1 = base.1.withHidden [] := congrArg Prod.fst (hides [])
  have settings : base.1.settings = { settings with hiddenSources := [] } := settings_run operations _
  have here : c = base.1.withHidden hidden := congrArg Prod.fst first
  have there : c' = base.1.withHidden hidden' := congrArg Prod.fst second
  have without : open_ = (base.1.withHidden []).snapshot := congrArg snapshot nothing
  clear_value told told' c c' open_
  subst here there without
  refine ⟨by rw [first, second], ?_, rfl, rfl, rfl, rfl, rfl, fun _ _ => rfl, rfl, ?_, ?_, ?_⟩
  · simp only [withHidden, Settings.withHidden, settings]
  · change (base.1.withHidden []).visible.map _ = _
    rw [visible_withHidden_nil, List.map_map]
    rfl
  · exact List.filter_eq_self.mpr fun _ _ => rfl
  · exact snapshot_withHidden base.1 hidden

end Conversation

end Transcript
