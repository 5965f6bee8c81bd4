import Transcript.Proofs.Conversation.Growth

/-! # The register with an index

A register can be kept in another form: beside the records of an open scope stand the positions of their
call ids, and the records of the other scopes stand in one table, under source and number. A result then
goes straight to the position of its id, and there is no way on if no record is there (`resolve?`). This
form never comes to that and holds the same records, whatever is done (`Represents.carryOut`): the
positions are exact, and no scope takes the place of another one in the table.
-/

namespace Transcript

/-! ## Scopes -/

/-- An open scope with the positions of its call ids. -/
structure IndexedScope where
  trigger : Nat
  records : List ToolRecord
  positions : Keyed String Nat

namespace IndexedScope

def start (trigger : Nat) : IndexedScope := ⟨trigger, [], ∅⟩

/-- The scope with a call, unless its id has a position. -/
def add (s : IndexedScope) (call : ToolCall) : IndexedScope :=
  match s.positions.get? call.id with
  | some _ => s
  | none =>
    { s with
      records := s.records ++ [.pending call]
      positions := s.positions.set call.id s.records.length }

def addAll (s : IndexedScope) (calls : List ToolCall) : IndexedScope := calls.foldl add s

def toScope (s : IndexedScope) : ToolScope := ⟨s.trigger, s.records⟩

/-- Whether the positions are those at which the ids are found. -/
def Exact (s : IndexedScope) : Prop := ∀ id, s.positions.get? id = s.toScope.indexOf? id

theorem exact_start (trigger : Nat) : (start trigger).Exact := fun _ => rfl

theorem toScope_add {s : IndexedScope} (places : s.Exact) (call : ToolCall) :
    (s.add call).toScope = s.toScope.add call := by
  unfold add ToolScope.add
  rw [places call.id]
  cases s.toScope.indexOf? call.id <;> rfl

theorem Exact.add {s : IndexedScope} (places : s.Exact) (call : ToolCall) : (s.add call).Exact := by
  intro id
  unfold IndexedScope.add
  split
  · exact places id
  next new =>
    have before := places id
    rw [places] at new
    simp only [toScope, ToolScope.indexOf?, List.findIdx?_append] at before new ⊢
    by_cases same : call.id = id
    · subst same
      rw [Keyed.get?_set_self, new]
      simp [ToolRecord.pending]
    · rw [Keyed.get?_set_of_ne _ same, before]
      simp [ToolRecord.pending, same]

theorem Exact.addAll {s : IndexedScope} (places : s.Exact) (calls : List ToolCall) :
    (s.addAll calls).Exact ∧ (s.addAll calls).toScope = s.toScope.addAll calls := by
  induction calls generalizing s with
  | nil => exact ⟨places, rfl⟩
  | cons call rest ih =>
    obtain ⟨later, same⟩ := ih (places.add call)
    refine ⟨later, same.trans ?_⟩
    rw [toScope_add places]
    rfl

/-- A record that gets its result stays in its place. -/
theorem Exact.answer {s : IndexedScope} (places : s.Exact) {index : Nat} {record : ToolRecord}
    (here : s.records[index]? = some record) (result : ToolResult) :
    Exact { s with records := s.records.set index { record with result := some result } } := by
  intro id
  obtain ⟨inside, rfl⟩ := List.getElem?_eq_some_iff.mp here
  have ids (records : List ToolRecord) : (records.findIdx? fun r => r.call.id = id) =
      (records.map fun r => r.call.id).findIdx? fun other => other = id := by
    rw [List.findIdx?_map]
    rfl
  have kept : (s.records.map fun r => r.call.id)[index]? = some s.records[index].call.id := by
    rw [List.getElem?_map, here]
    rfl
  refine (places id).trans ?_
  obtain ⟨inside', same⟩ := List.getElem?_eq_some_iff.mp kept
  simp only [toScope, ToolScope.indexOf?, ids, List.map_set, ← same, List.set_getElem_self]

end IndexedScope

/-! ## Registers -/

/-- A register with the open scopes by source, and the records of the other scopes by source and
number. -/
structure IndexedRegister where
  active : Keyed String IndexedScope := ∅
  sealed : Keyed (String × Nat) (List ToolRecord) := ∅

namespace IndexedRegister

def request (k : IndexedRegister) (source : String) (trigger : Nat) (calls : List ToolCall) :
    IndexedRegister × RequestOutcome :=
  match k.active.get? source with
  | none => ({ k with active := k.active.set source ((IndexedScope.start trigger).addAll calls) }, .opened)
  | some scope =>
    if trigger < scope.trigger then (k, .stale)
    else if trigger = scope.trigger then
      ({ k with active := k.active.set source (scope.addAll calls) }, .extended)
    else
      ({ active := k.active.set source ((IndexedScope.start trigger).addAll calls)
         sealed := k.sealed.set (source, scope.trigger) scope.records }, .opened)

/-- Enter a result, if there is a record where its id leads. -/
def resolve? (k : IndexedRegister) (source : String) (result : ToolResult) :
    Option (IndexedRegister × ResolveOutcome) :=
  match k.active.get? source with
  | none => some (k, .orphaned)
  | some scope =>
    match scope.positions.get? result.callId with
    | none => some (k, .orphaned)
    | some index => scope.records[index]?.map fun record =>
      if record.isResolved then (k, .alreadyResolved)
      else
        let records := scope.records.set index { record with result := some result }
        ({ k with active := k.active.set source { scope with records } }, .correlated)

def recordsFor (k : IndexedRegister) (source : String) (message : Nat) : List ToolRecord :=
  match (k.active.get? source).filter fun scope => scope.trigger = message with
  | some scope => scope.records
  | none => (k.sealed.get? (source, message)).getD []

/-- The register after an operation, unless a position leads nowhere. -/
def carryOut? (k : IndexedRegister) : CallRegister.Operation → Option IndexedRegister
  | .request source trigger calls => some (k.request source trigger calls).1
  | .resolve source result => (k.resolve? source result).map Prod.fst

/-- The register that operations make, unless a position leads nowhere. -/
def after? (operations : List CallRegister.Operation) : Option IndexedRegister :=
  operations.foldlM carryOut? {}

/-- Whether both forms hold the same. -/
structure Represents (k : IndexedRegister) (l : CallRegister) : Prop where
  active : ∀ source, (k.active.get? source).map IndexedScope.toScope = (l.scopes source).head?
  places : ∀ source scope, k.active.get? source = some scope → scope.Exact
  sealed : ∀ source trigger, k.sealed.get? (source, trigger) =
    ((l.scopes source).tail.find? fun scope => scope.trigger = trigger).map ToolScope.records

theorem represents_empty : Represents {} ∅ where
  active _ := rfl
  places := by
    intro source scope known
    contradiction
  sealed _ _ := rfl

variable {k : IndexedRegister} {l : CallRegister}

/-- One source has another open scope, and maybe other older ones, which the table says too. -/
theorem Represents.write (represents : k.Represents l) {source : String} {scope : IndexedScope}
    (places : scope.Exact) {older : List ToolScope} {table : Keyed (String × Nat) (List ToolRecord)}
    (tabled : ∀ other trigger, table.get? (other, trigger) =
      ((if other = source then older else (l.scopes other).tail).find? fun scope =>
        scope.trigger = trigger).map ToolScope.records) :
    Represents ⟨k.active.set source scope, table⟩ ⟨l.histories.set source ⟨scope.toScope, older⟩⟩ where
  active other := by
    rw [CallRegister.scopes_set]
    split
    next same => rw [same, Keyed.get?_set_self]; rfl
    next different => rw [Keyed.get?_set_of_ne _ (Ne.symm different)]; exact represents.active other
  places := by
    intro other scope' known
    by_cases same : other = source
    · rw [same, Keyed.get?_set_self] at known
      exact Option.some.inj known ▸ places
    · rw [Keyed.get?_set_of_ne _ (Ne.symm same)] at known
      exact represents.places other scope' known
  sealed other trigger := by
    rw [CallRegister.scopes_set, tabled]
    split <;> rfl

/-- The table stays if the older scopes do. -/
theorem Represents.sealed_of_tail (represents : k.Represents l) {source : String}
    {older : List ToolScope} (kept : (l.scopes source).tail = older) (other : String)
    (trigger : Nat) : k.sealed.get? (other, trigger) =
      ((if other = source then older else (l.scopes other).tail).find? fun scope =>
        scope.trigger = trigger).map ToolScope.records := by
  rw [represents.sealed]
  split
  next same => rw [same, kept]
  next => rfl

/-- The table takes the records of the scope that was open, beside those of all older ones. -/
theorem Represents.sealed_of_cons (represents : k.Represents l) {source : String} {scope : ToolScope}
    {older : List ToolScope} (listed : l.scopes source = scope :: older) (other : String)
    (trigger : Nat) : (k.sealed.set (source, scope.trigger) scope.records).get? (other, trigger) =
      ((if other = source then l.scopes source else (l.scopes other).tail).find? fun scope =>
        scope.trigger = trigger).map ToolScope.records := by
  by_cases here : (source, scope.trigger) = (other, trigger)
  · cases here
    rw [Keyed.get?_set_self, if_pos rfl, listed]
    simp
  · rw [Keyed.get?_set_of_ne _ here, represents.sealed]
    split
    next same =>
      subst same
      have different : scope.trigger ≠ trigger := fun equal => here (by rw [equal])
      rw [listed, List.find?_cons_of_neg (by simpa using different), List.tail_cons]
    next => rfl

/-- The open scope of a source, in both forms. -/
theorem Represents.exists_active (represents : k.Represents l) {source : String} {scope : ToolScope}
    {older : List ToolScope} (listed : l.scopes source = scope :: older) :
    ∃ s, k.active.get? source = some s ∧ s.toScope = scope ∧ s.Exact := by
  have same := represents.active source
  rw [listed] at same
  obtain ⟨s, known, toScope⟩ := Option.map_eq_some_iff.mp same
  exact ⟨s, known, toScope, represents.places source s known⟩

theorem Represents.request (represents : k.Represents l) (source : String) (trigger : Nat)
    (calls : List ToolCall) :
    (k.request source trigger calls).2 = (l.request source trigger calls).2 ∧
      (k.request source trigger calls).1.Represents (l.request source trigger calls).1 := by
  unfold IndexedRegister.request
  obtain ⟨scope, older, listed, before, stale⟩ | ⟨scope, older, listed, same, extended⟩ |
      ⟨newer, opened⟩ := l.request_cases source trigger calls
  · obtain ⟨s, known, rfl, -⟩ := represents.exists_active listed
    have before : trigger < s.trigger := before
    simp only [known, if_pos before, stale]
    exact ⟨trivial, represents⟩
  · obtain ⟨s, known, rfl, places⟩ := represents.exists_active listed
    have same : s.trigger = trigger := same
    obtain ⟨places', toScope⟩ := places.addAll calls
    simp only [known, same, Nat.lt_irrefl, if_false, if_true, extended, true_and]
    rw [← toScope]
    exact represents.write places' (represents.sealed_of_tail (by rw [listed]; rfl))
  · obtain ⟨places', toScope⟩ := (IndexedScope.exact_start trigger).addAll calls
    rw [opened]
    change _ ∧ Represents _ ⟨l.histories.set source ⟨(IndexedScope.start trigger).toScope.addAll calls, _⟩⟩
    rw [← toScope]
    cases listed : l.scopes source with
    | nil =>
      have unknown : k.active.get? source = none := by
        simpa [listed] using represents.active source
      simp only [unknown, true_and]
      exact represents.write places' (represents.sealed_of_tail (by rw [listed]; rfl))
    | cons scope older =>
      obtain ⟨s, known, rfl, -⟩ := represents.exists_active listed
      have after : s.trigger < trigger := newer s.toScope (by rw [listed]; rfl)
      simp only [known, if_neg (Nat.not_lt_of_lt after), if_neg (Nat.ne_of_gt after), true_and]
      rw [← listed]
      exact represents.write places' (represents.sealed_of_cons listed)

/-- A position that is found is that of a record, so a result is entered in both forms or in neither. -/
theorem Represents.resolve (represents : k.Represents l) (source : String) (result : ToolResult) :
    ∃ k', k.resolve? source result = some (k', (l.resolve source result).2) ∧
      k'.Represents (l.resolve source result).1 := by
  cases listed : l.scopes source with
  | nil =>
    have unknown : k.active.get? source = none := by
      simpa [listed] using represents.active source
    have unheard := CallRegister.get?_of_scopes_nil listed
    refine ⟨k, ?_, ?_⟩
    · simp only [IndexedRegister.resolve?, CallRegister.resolve, unknown, unheard]
    · simpa only [CallRegister.resolve, unheard] using represents
  | cons scope older =>
    obtain ⟨s, known, rfl, places⟩ := represents.exists_active listed
    have heard := CallRegister.get?_of_scopes_cons listed
    simp only [IndexedRegister.resolve?, CallRegister.resolve, known, heard, places result.callId]
    cases found : s.toScope.indexOf? result.callId with
    | none => exact ⟨k, rfl, represents⟩
    | some index =>
      obtain ⟨inside, -, -⟩ := List.findIdx?_eq_some_iff_getElem.mp found
      have here : s.records[index]? = some s.records[index] := List.getElem?_eq_getElem inside
      have there : s.toScope.records[index]? = some s.records[index] := here
      simp only [here, there, Option.map_some]
      split
      · exact ⟨k, rfl, represents⟩
      · refine ⟨_, rfl, ?_⟩
        have places' := places.answer here result
        exact represents.write places' (represents.sealed_of_tail (by rw [listed]; rfl))

theorem Represents.carryOut (represents : k.Represents l) (operation : CallRegister.Operation) :
    ∃ k', k.carryOut? operation = some k' ∧ k'.Represents (l.carryOut operation) := by
  cases operation with
  | request source trigger calls => exact ⟨_, rfl, (represents.request source trigger calls).2⟩
  | resolve source result =>
    obtain ⟨k', resolved, later⟩ := represents.resolve source result
    exact ⟨k', by rw [carryOut?, resolved]; rfl, later⟩

/-- No operation comes to a position without a record, and the two forms stay the same. -/
theorem Represents.after (represents : k.Represents l) (operations : List CallRegister.Operation) :
    ∃ k', operations.foldlM carryOut? k = some k' ∧
      k'.Represents (operations.foldl CallRegister.carryOut l) := by
  induction operations generalizing k l with
  | nil => exact ⟨k, rfl, represents⟩
  | cons operation rest ih =>
    obtain ⟨next, done, represents'⟩ := represents.carryOut operation
    obtain ⟨last, later, represents''⟩ := ih represents'
    refine ⟨last, ?_, represents''⟩
    rw [List.foldlM_cons, done]
    exact later

/-- Both forms tell the same of every message. -/
theorem Represents.recordsFor (represents : k.Represents l) (source : String) (message : Nat) :
    k.recordsFor source message = l.recordsFor source message := by
  rw [CallRegister.recordsFor_eq, IndexedRegister.recordsFor, represents.sealed]
  have active := represents.active source
  cases listed : l.scopes source with
  | nil =>
    have unknown : k.active.get? source = none := by simpa [listed] using active
    rw [unknown]
    rfl
  | cons scope older =>
    obtain ⟨s, known, rfl, -⟩ := represents.exists_active listed
    rw [known]
    by_cases same : s.trigger = message
    · simp only [Option.filter_some, same, decide_true, if_true, IndexedScope.toScope,
        List.find?_cons_of_pos, Option.map_some, Option.getD_some]
    · simp only [Option.filter_some, same, decide_false, Bool.false_eq_true, if_false,
        IndexedScope.toScope, List.tail_cons, List.find?_cons_of_neg, not_false_eq_true]

/-- The number of the open scope is not in the table, nor is a greater one. -/
theorem Represents.exists_trigger_lt (represents : k.Represents l) (sound : l.Sound) {source : String}
    {trigger : Nat} {records : List ToolRecord}
    (known : k.sealed.get? (source, trigger) = some records) :
    ∃ s, k.active.get? source = some s ∧ trigger < s.trigger := by
  rw [represents.sealed] at known
  obtain ⟨scope, found, -⟩ := Option.map_eq_some_iff.mp known
  cases listed : l.scopes source with
  | nil => simp [listed] at found
  | cons active older =>
    rw [listed, List.tail_cons] at found
    obtain ⟨s, known, rfl, -⟩ := represents.exists_active listed
    have below := (List.pairwise_cons.mp (listed ▸ sound.ordered source)).1
    have same : scope.trigger = trigger := by simpa using List.find?_some found
    exact ⟨s, known, same ▸ below scope (List.mem_of_find?_eq_some found)⟩

/-- An id has a position if it is the id of a record, and that record is there. -/
theorem Represents.position_iff (represents : k.Represents l) (sound : l.Sound) {source : String}
    {s : IndexedScope} (known : k.active.get? source = some s) (id : String) (index : Nat) :
    s.positions.get? id = some index ↔ ∃ r, s.records[index]? = some r ∧ r.call.id = id := by
  have active := represents.active source
  rw [known] at active
  have member : s.toScope ∈ l.scopes source := List.mem_of_mem_head? active.symm
  rw [represents.places source s known]
  exact (sound.scope source _ member).indexOf?_eq_some_iff id index

end IndexedRegister

/-! ## Any use -/

namespace CallRegister

/-- Whatever a register is given: the scopes of a source are in the order of their numbers, ids are
distinct in each of them and found where their records are, and a result stands with its call. Whatever
else it is given later, every record keeps its place, its call and its result, and the records of a scope
that is not open any more stay as they are. The form with an index tells the same of every operation and
has the same records under every number; no position in it leads nowhere, and the number of an open scope
is beyond all in the table. -/
theorem scopes_only_grow (operations more : List Operation) :
    let l := after operations
    let l' := after (operations ++ more)
    (∀ source history, l.histories.get? source = some history →
      (∀ scope ∈ history.sealed, scope.trigger < history.active.trigger) ∧
      (history.sealed.Pairwise fun later earlier => earlier.trigger < later.trigger) ∧
      ∀ scope ∈ history.active :: history.sealed,
        (scope.records.map fun r => r.call.id).Nodup ∧
        (∀ id index, scope.indexOf? id = some index ↔
          ∃ r, scope.records[index]? = some r ∧ r.call.id = id) ∧
        ∀ r ∈ scope.records, ∀ result, r.result = some result → result.callId = r.call.id) ∧
    (∀ source message,
      ToolRecord.Extend (l.recordsFor source message) (l'.recordsFor source message)) ∧
    (∀ source history, l.histories.get? source = some history →
      ∃ history', l'.histories.get? source = some history' ∧ history.sealed <:+ history'.sealed ∧
        ∀ scope ∈ history.sealed, l'.recordsFor source scope.trigger = scope.records) ∧
    ∃ k, IndexedRegister.after? operations = some k ∧
      (∀ source trigger records, k.sealed.get? (source, trigger) = some records →
        ∃ open_, k.active.get? source = some open_ ∧ trigger < open_.trigger) ∧
      (∀ source open_, k.active.get? source = some open_ → ∀ id index,
        open_.positions.get? id = some index ↔
          ∃ r, open_.records[index]? = some r ∧ r.call.id = id) ∧
      (∀ source message, k.recordsFor source message = l.recordsFor source message) ∧
      (∀ source trigger calls,
        (k.request source trigger calls).2 = (l.request source trigger calls).2) ∧
      ∀ source result,
        (k.resolve? source result).map Prod.snd = some (l.resolve source result).2 := by
  intro l l'
  obtain ⟨sound, -⟩ := sound_empty.after operations
  have sound : l.Sound := sound
  have continued : l' = more.foldl carryOut l := List.foldl_append
  obtain ⟨sound', grow⟩ := sound.after more
  rw [← continued] at sound' grow
  obtain ⟨k, done, represents⟩ := IndexedRegister.represents_empty.after operations
  have represents : k.Represents l := represents
  refine ⟨?_, ?_, fun _ _ => sound'.sealed_stay (grow _), k, done,
    fun _ _ _ => represents.exists_trigger_lt sound, fun _ _ => represents.position_iff sound,
    represents.recordsFor, fun _ _ _ => (represents.request _ _ _).1, ?_⟩
  · intro source history known
    have listed := scopes_of_get? known
    obtain ⟨below, ordered⟩ := List.pairwise_cons.mp (listed ▸ sound.ordered source)
    refine ⟨below, ordered, fun scope member => ?_⟩
    have sound := sound.scope source scope (listed ▸ member)
    exact ⟨sound.distinct, sound.indexOf?_eq_some_iff, sound.answered⟩
  · intro source message
    exact extend_recordsFor sound sound' (grow source) message
  · intro source result
    obtain ⟨_, resolved, -⟩ := represents.resolve source result
    rw [resolved]
    rfl

end CallRegister

end Transcript
