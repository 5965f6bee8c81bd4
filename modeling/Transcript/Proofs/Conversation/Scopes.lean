import Transcript.Conversation.CallRegister
import Transcript.Proofs.FirstBy
import Mathlib.Data.List.Nodup

/-! # The scopes of a source

Seen from one source, the register is a list of scopes with the open one in front. A request puts a
new scope there and a result answers in the first scope only; no other source is touched
(`scopes_request`, `scopes_resolve`). Many results are answered as if each call looked for its first
answer among them (`ToolScope.answerAll`).
-/

namespace Transcript

/-- The record with a result, if it is one for the call and the first. -/
def ToolRecord.answer (r : ToolRecord) (result : ToolResult) : ToolRecord :=
  if r.call.id = result.callId ∧ r.result = none then { r with result := some result } else r

namespace ToolScope

/-- Whether no two records are of one call id. -/
def Distinct (s : ToolScope) : Prop := (s.records.map fun r => r.call.id).Nodup

/-- The scope with a result. -/
def answer (s : ToolScope) (result : ToolResult) : ToolScope :=
  { s with records := s.records.map fun r => r.answer result }

/-- The scope with results: every call that waits takes the first one for it. -/
def answerAll (s : ToolScope) (results : List ToolResult) : ToolScope :=
  { s with records := s.records.map fun r =>
      ⟨r.call, r.result.or (results.find? fun result => result.callId = r.call.id)⟩ }

theorem indexOf?_eq_none_iff (s : ToolScope) (id : String) :
    s.indexOf? id = none ↔ id ∉ s.records.map fun r => r.call.id := by
  simp only [indexOf?, List.findIdx?_eq_none_iff, decide_eq_false_iff_not, List.mem_map, not_exists,
    not_and]

theorem add_eq (s : ToolScope) (call : ToolCall) :
    s.add call =
      if call.id ∈ s.records.map fun r => r.call.id then s
      else { s with records := s.records ++ [.pending call] } := by
  rw [add]
  cases found : s.indexOf? call.id with
  | none => rw [if_neg ((s.indexOf?_eq_none_iff call.id).mp found)]
  | some index =>
    have member : call.id ∈ s.records.map fun r => r.call.id := by
      by_contra absent
      rw [(s.indexOf?_eq_none_iff call.id).mpr absent] at found
      contradiction
    rw [if_pos member]

/-- The calls whose ids have no record yet come behind the records, one for each id, in the order of
the calls. -/
theorem addAll_eq (s : ToolScope) (calls : List ToolCall) :
    s.addAll calls = { s with records := s.records ++
      (firstBy (fun call : ToolCall => some call.id)
        (calls.filter fun call => call.id ∉ s.records.map fun r => r.call.id)).map .pending } := by
  induction calls using List.reverseRecOn with
  | nil => simp [addAll, firstBy]
  | append_singleton rest call ih =>
    have step : s.addAll (rest ++ [call]) = (s.addAll rest).add call := by
      simp only [addAll, List.foldl_append, List.foldl_cons, List.foldl_nil]
    rw [step, ih, add_eq, List.filter_append]
    generalize fresh : rest.filter (fun call => call.id ∉ s.records.map fun r => r.call.id) = calls
    have known : call.id ∈ (((firstBy (fun call : ToolCall => some call.id) calls).map
        ToolRecord.pending).map fun r => r.call.id) ↔
          repeats (fun call : ToolCall => some call.id) calls call = true := by
      have kept := mem_filterMap_firstBy (fun call : ToolCall => some call.id) calls call.id
      simpa [repeats, ToolRecord.pending] using kept
    simp only [List.map_append, List.mem_append, known]
    by_cases there : call.id ∈ s.records.map fun r => r.call.id
    · simp only [there, true_or, if_true, not_true_eq_false, decide_false, Bool.false_eq_true,
        not_false_eq_true, List.filter_cons_of_neg, List.filter_nil, List.append_nil]
    · simp only [there, false_or, not_false_eq_true, decide_true, List.filter_cons_of_pos,
        List.filter_nil, firstBy_concat]
      split <;> simp

/-- A new scope has one record for every call id, in the order of the calls. -/
theorem addAll_start (trigger : Nat) (calls : List ToolCall) :
    (start trigger).addAll calls =
      ⟨trigger, (firstBy (fun call : ToolCall => some call.id) calls).map .pending⟩ := by
  simp [addAll_eq, start]

theorem trigger_addAll (calls : List ToolCall) (s : ToolScope) :
    (s.addAll calls).trigger = s.trigger := by
  induction calls generalizing s with
  | nil => rfl
  | cons call rest ih =>
    have first : (s.add call).trigger = s.trigger := by
      rw [add_eq]
      split <;> rfl
    exact (ih (s.add call)).trans first

theorem answerAll_nil (s : ToolScope) : s.answerAll [] = s := by
  simp [answerAll]

theorem modifyHead_answerAll_nil (scopes : List ToolScope) :
    scopes.modifyHead (fun scope => scope.answerAll []) = scopes := by
  cases scopes with
  | nil => rfl
  | cons scope older => rw [List.modifyHead_cons, answerAll_nil]

theorem answerAll_cons (s : ToolScope) (result : ToolResult) (rest : List ToolResult) :
    s.answerAll (result :: rest) = (s.answer result).answerAll rest := by
  simp only [answerAll, answer, List.map_map]
  congr 2
  funext r
  simp only [Function.comp_apply, ToolRecord.answer, List.find?_cons]
  by_cases same : r.call.id = result.callId
  · cases held : r.result <;> simp [same, held]
  · simp [same, Ne.symm same]

theorem distinct_answer {s : ToolScope} (distinct : s.Distinct) (result : ToolResult) :
    (s.answer result).Distinct := by
  have kept : (fun r : ToolRecord => (r.answer result).call.id) = fun r => r.call.id := by
    funext r
    unfold ToolRecord.answer
    split <;> rfl
  simpa only [Distinct, answer, List.map_map, Function.comp_def, kept] using distinct

theorem answer_of_unknown {s : ToolScope} {result : ToolResult}
    (unknown : s.indexOf? result.callId = none) : s.answer result = s := by
  have absent := (s.indexOf?_eq_none_iff result.callId).mp unknown
  have unmoved : ∀ r ∈ s.records, r.answer result = r := by
    intro r member
    have different : r.call.id ≠ result.callId := fun same => absent (List.mem_map.mpr ⟨r, member, same⟩)
    simp only [ToolRecord.answer, different, false_and, if_false]
  simp only [answer, List.map_congr_left unmoved, List.map_id']

/-- In a scope without repeated ids, a result can only be for the record that is found first. -/
theorem answer_eq_set {s : ToolScope} (distinct : s.Distinct) {result : ToolResult} {index : Nat}
    (found : s.indexOf? result.callId = some index) {record : ToolRecord}
    (here : s.records[index]? = some record) :
    s.answer result = { s with records := s.records.set index (record.answer result) } := by
  obtain ⟨bound, matched, -⟩ := List.findIdx?_eq_some_iff_getElem.mp found
  obtain ⟨_, rfl⟩ := List.getElem?_eq_some_iff.mp here
  rw [answer]
  congr 1
  apply List.ext_getElem
  · simp
  · intro i inside _
    simp only [List.getElem_map, List.getElem_set]
    split
    · next same => subst same; rfl
    · next other =>
      let ids := s.records.map fun r => r.call.id
      have first : index < ids.length := by simpa [ids] using bound
      have within : i < s.records.length := by simpa using inside
      have second : i < ids.length := by simpa [ids] using within
      have different : s.records[i].call.id ≠ result.callId := by
        intro equal
        apply other
        have same : ids[index] = ids[i] := by
          simp only [ids, List.getElem_map, equal]
          exact of_decide_eq_true matched
        exact distinct.getElem_inj_iff.mp same
      simp only [ToolRecord.answer, different, false_and, if_false]

end ToolScope

namespace CallRegister

def scopes (l : CallRegister) (source : String) : List ToolScope :=
  match l.histories.get? source with
  | some history => history.active :: history.sealed
  | none => []

@[simp] theorem scopes_empty (source : String) : (∅ : CallRegister).scopes source = [] := rfl

theorem recordsFor_eq (l : CallRegister) (source : String) (message : Nat) :
    l.recordsFor source message =
      (((l.scopes source).find? fun scope => scope.trigger = message).map
        ToolScope.records).getD [] := by
  unfold recordsFor scopes
  cases l.histories.get? source with
  | none => rfl
  | some history =>
    by_cases here : history.active.trigger = message
    · simp [here]
    · simp only [here, if_false, List.find?_cons, decide_false]
      cases history.sealed.find? fun scope => scope.trigger = message <;> rfl

theorem active?_eq (l : CallRegister) (source : String) :
    l.active? source = (l.scopes source).head? := by
  unfold active? scopes
  cases l.histories.get? source <;> rfl

theorem activeTrigger?_eq (l : CallRegister) (source : String) :
    l.activeTrigger? source = (l.scopes source).head?.map ToolScope.trigger := by
  rw [activeTrigger?, active?_eq]

theorem scopes_set (l : CallRegister) (source other : String) (history : ToolHistory) :
    scopes ⟨l.histories.set source history⟩ other =
      if other = source then history.active :: history.sealed else l.scopes other := by
  unfold scopes
  by_cases same : other = source
  · rw [if_pos same, same, Keyed.get?_set_self]
  · rw [if_neg same, Keyed.get?_set_of_ne _ (Ne.symm same)]

theorem scopes_of_get? {l : CallRegister} {source : String} {history : ToolHistory}
    (known : l.histories.get? source = some history) :
    l.scopes source = history.active :: history.sealed := by
  simp only [scopes, known]

theorem get?_of_scopes_nil {l : CallRegister} {source : String} (listed : l.scopes source = []) :
    l.histories.get? source = none := by
  unfold scopes at listed
  split at listed
  next => contradiction
  next unknown => exact unknown

theorem get?_of_scopes_cons {l : CallRegister} {source : String} {scope : ToolScope}
    {older : List ToolScope} (listed : l.scopes source = scope :: older) :
    l.histories.get? source = some ⟨scope, older⟩ := by
  unfold scopes at listed
  split at listed
  next known =>
    obtain ⟨rfl, rfl⟩ := List.cons.inj listed
    exact known
  next => contradiction

/-- A request is older than the open scope of its source and is ignored, or it adds to this scope, or it
opens one in front of it. -/
theorem request_cases (l : CallRegister) (source : String) (trigger : Nat) (calls : List ToolCall) :
    (∃ scope older, l.scopes source = scope :: older ∧ trigger < scope.trigger ∧
      l.request source trigger calls = (l, .stale)) ∨
    (∃ scope older, l.scopes source = scope :: older ∧ scope.trigger = trigger ∧
      l.request source trigger calls =
        (⟨l.histories.set source ⟨scope.addAll calls, older⟩⟩, .extended)) ∨
    (∀ scope ∈ (l.scopes source).head?, scope.trigger < trigger) ∧
      l.request source trigger calls =
        (⟨l.histories.set source ⟨(ToolScope.start trigger).addAll calls, l.scopes source⟩⟩, .opened) := by
  unfold request
  cases known : l.histories.get? source with
  | none =>
    have nothing : l.scopes source = [] := by simp only [scopes, known]
    exact .inr (.inr ⟨by simp [nothing], by rw [nothing]⟩)
  | some history =>
    have listed := scopes_of_get? known
    rcases Nat.lt_trichotomy trigger history.active.trigger with older | same | newer
    · exact .inl ⟨_, _, listed, older, by simp only [if_pos older]⟩
    · exact .inr (.inl ⟨_, _, listed, same.symm, by simp [same]⟩)
    · refine .inr (.inr ⟨by simpa [listed] using newer, ?_⟩)
      simp only [if_neg (Nat.not_lt_of_lt newer), if_neg (Nat.ne_of_gt newer), listed]

/-- A request that is newer than every scope of its source opens one in front of them. -/
theorem scopes_request (l : CallRegister) (source : String) {trigger : Nat} (calls : List ToolCall)
    (newer : ∀ scope ∈ l.scopes source, scope.trigger < trigger) (other : String) :
    (l.request source trigger calls).1.scopes other =
      if other = source then (ToolScope.start trigger).addAll calls :: l.scopes source
      else l.scopes other := by
  obtain ⟨scope, older, listed, stale, -⟩ | ⟨scope, older, listed, same, -⟩ | ⟨-, opened⟩ :=
    l.request_cases source trigger calls
  · have := newer scope (listed ▸ List.mem_cons_self)
    omega
  · have := newer scope (listed ▸ List.mem_cons_self)
    omega
  · rw [opened, scopes_set]

/-- A result is orphaned where the open scope of its source has no record of its call. Otherwise it comes
too late for this record, or the record gets it. -/
theorem resolve_forms (l : CallRegister) (source : String) (result : ToolResult) :
    (l.resolve source result = (l, .orphaned) ∧ ∀ history, l.histories.get? source = some history →
      history.active.indexOf? result.callId = none) ∨
    ∃ history index r, l.histories.get? source = some history ∧
      history.active.indexOf? result.callId = some index ∧
      history.active.records[index]? = some r ∧ r.call.id = result.callId ∧
      (r.isResolved = true ∧ l.resolve source result = (l, .alreadyResolved) ∨
        r.result = none ∧ l.resolve source result = (⟨l.histories.set source { history with
          active := { history.active with
            records := history.active.records.set index { r with result := some result } } }⟩,
          .correlated)) := by
  unfold resolve
  cases known : l.histories.get? source with
  | none => exact .inl ⟨rfl, by simp⟩
  | some history =>
    cases found : history.active.indexOf? result.callId with
    | none => exact .inl ⟨by simp only [found], by simpa using found⟩
    | some index =>
      obtain ⟨bound, matched, -⟩ := List.findIdx?_eq_some_iff_getElem.mp found
      have here := List.getElem?_eq_getElem bound
      refine .inr ⟨history, index, _, rfl, found, here, of_decide_eq_true matched, ?_⟩
      simp only [found, here]
      cases held : history.active.records[index].result with
      | some earlier => exact .inl (by simp [ToolRecord.isResolved, held])
      | none => exact .inr (by simp [ToolRecord.isResolved, held])

/-- A result leaves the register as it is, where it has nothing to answer, or answers in the active
scope of its source. -/
theorem resolve_cases (l : CallRegister) (source : String) (result : ToolResult)
    (distinct : ∀ scope ∈ l.scopes source, scope.Distinct) :
    ((l.resolve source result).1 = l ∧
      (l.scopes source).modifyHead (fun scope => scope.answer result) = l.scopes source) ∨
    ∃ history, l.histories.get? source = some history ∧
      (l.resolve source result).1 = ⟨l.histories.set source
        { history with active := history.active.answer result }⟩ := by
  obtain ⟨orphaned, unknown⟩ | ⟨history, index, r, known, found, here, same, late | answers⟩ :=
    l.resolve_forms source result
  · refine .inl ⟨congrArg Prod.fst orphaned, ?_⟩
    cases known : l.histories.get? source with
    | none => simp only [scopes, known, List.modifyHead_nil]
    | some history =>
      rw [scopes_of_get? known, List.modifyHead_cons, ToolScope.answer_of_unknown (unknown history known)]
  all_goals
    have unique := distinct history.active (scopes_of_get? known ▸ List.mem_cons_self)
    have answered := ToolScope.answer_eq_set unique found here
  · obtain ⟨resolved, late⟩ := late
    have unmoved : r.answer result = r := by
      obtain ⟨earlier, held⟩ := Option.isSome_iff_exists.mp resolved
      simp [ToolRecord.answer, held]
    obtain ⟨bound, rfl⟩ := List.getElem?_eq_some_iff.mp here
    rw [unmoved, List.set_getElem_self] at answered
    exact .inl ⟨congrArg Prod.fst late, by rw [scopes_of_get? known, List.modifyHead_cons, answered]⟩
  · obtain ⟨waits, answers⟩ := answers
    have taken : r.answer result = { r with result := some result } := by
      simp [ToolRecord.answer, waits, same]
    rw [taken] at answered
    exact .inr ⟨history, known, by rw [answers, answered]⟩

/-- A result answers in the first scope of its source and nowhere else. -/
theorem scopes_resolve (l : CallRegister) (source : String) (result : ToolResult)
    (distinct : ∀ scope ∈ l.scopes source, scope.Distinct) (other : String) :
    (l.resolve source result).1.scopes other =
      if other = source then (l.scopes source).modifyHead fun scope => scope.answer result
      else l.scopes other := by
  obtain ⟨same, unmoved⟩ | ⟨history, known, changed⟩ := resolve_cases l source result distinct
  · rw [same, unmoved]
    split
    · next here => rw [here]
    · rfl
  · rw [changed, scopes_set, scopes_of_get? known, List.modifyHead_cons]

theorem scopes_foldl_resolve (results : List ToolResult) (l : CallRegister) (source : String)
    (distinct : ∀ scope ∈ l.scopes source, scope.Distinct) (other : String) :
    (results.foldl (fun l result => (l.resolve source result).1) l).scopes other =
      if other = source then (l.scopes source).modifyHead fun scope => scope.answerAll results
      else l.scopes other := by
  induction results generalizing l with
  | nil =>
    rw [List.foldl_nil, ToolScope.modifyHead_answerAll_nil]
    split
    · next same => rw [same]
    · rfl
  | cons result rest ih =>
    have first := scopes_resolve l source result distinct
    have still : ∀ scope ∈ (l.resolve source result).1.scopes source, scope.Distinct := by
      rw [first, if_pos rfl]
      cases listed : l.scopes source with
      | nil => simp
      | cons scope older =>
        rw [listed, List.forall_mem_cons] at distinct
        rw [List.modifyHead_cons, List.forall_mem_cons]
        exact ⟨ToolScope.distinct_answer distinct.1 result, distinct.2⟩
    rw [List.foldl_cons, ih _ still, first, first]
    by_cases same : other = source
    · simp only [if_pos same, if_true, List.modifyHead_modifyHead, Function.comp_def,
        ToolScope.answerAll_cons]
    · simp only [if_neg same]

/-! ## Every source apart -/

/-- A request writes the history of its source and no other. -/
theorem request_writes (l : CallRegister) (source : String) (trigger : Nat)
    (calls : List ToolCall) :
    (l.request source trigger calls).1 = l ∨
      ∃ history, (l.request source trigger calls).1 = ⟨l.histories.set source history⟩ := by
  obtain ⟨_, _, -, -, stale⟩ | ⟨_, _, -, -, extended⟩ | ⟨-, opened⟩ :=
    l.request_cases source trigger calls
  · exact .inl (congrArg Prod.fst stale)
  · exact .inr ⟨_, congrArg Prod.fst extended⟩
  · exact .inr ⟨_, congrArg Prod.fst opened⟩

/-- A result writes the history of its source and no other. -/
theorem resolve_writes (l : CallRegister) (source : String) (result : ToolResult) :
    (l.resolve source result).1 = l ∨
      ∃ history, (l.resolve source result).1 = ⟨l.histories.set source history⟩ := by
  obtain ⟨orphaned, -⟩ | ⟨_, _, _, -, -, -, -, ⟨-, late⟩ | ⟨-, answers⟩⟩ :=
    l.resolve_forms source result
  · exact .inl (congrArg Prod.fst orphaned)
  · exact .inl (congrArg Prod.fst late)
  · exact .inr ⟨_, congrArg Prod.fst answers⟩

theorem unresolvedOf_eq (l : CallRegister) (source : String) :
    l.unresolvedOf source =
      ((l.scopes source).head?.map ToolScope.records |>.getD []).filter fun r => !r.isResolved := by
  rw [unresolvedOf, active?_eq]
  cases (l.scopes source).head? <;> rfl

private theorem filter_flatMap_pair {β : Type} {sources : List String} (distinct : sources.Nodup)
    (f : String → List β) (source : String) :
    ((sources.flatMap fun other => (f other).map fun b => (other, b)).filter fun pair =>
      pair.1 = source).map Prod.snd = if source ∈ sources then f source else [] := by
  induction sources with
  | nil => rfl
  | cons other rest ih =>
    obtain ⟨absent, distinct⟩ := List.nodup_cons.mp distinct
    rw [List.flatMap_cons, List.filter_append, List.map_append, ih distinct]
    by_cases same : other = source
    · subst same
      simp [List.filter_map, Function.comp_def, absent]
    · simp [List.filter_map, Function.comp_def, same, Ne.symm same]

/-- The list of waiting records holds those of every source, in their order. -/
theorem unresolved_of_source (l : CallRegister) (source : String) :
    (l.unresolved.filter fun pair => pair.1 = source).map Prod.snd = l.unresolvedOf source := by
  have sorted : l.sources.Perm l.histories.keys := List.mergeSort_perm _ _
  rw [unresolved, filter_flatMap_pair (sorted.nodup_iff.mpr l.histories.distinct)]
  split
  · rfl
  · next absent =>
    have unknown : l.histories.get? source = none :=
      Keyed.get?_eq_none fun member => absent (sorted.mem_iff.mpr member)
    simp only [unresolvedOf, active?, unknown, Option.map_none, Option.getD_none]

end CallRegister

end Transcript
