import Transcript.Proofs.Conversation.CallIndex

/-! # Outcomes tell what was done

A result is correlated exactly if the record of its call in the open scope of its source waits for one,
and then this record gets it and nothing else changes; in any other case nothing changes at all
(`Resolved`). A request is stale exactly if the open scope has a greater number, and then nothing changes;
it adds records to the open scope if that has its own number, and else it opens a scope in front of the
others (`Requested`). Whatever is done for a source, nothing that is read of another one changes
(`frame_carryOut`).
-/

namespace Transcript.CallRegister

def Operation.source : Operation → String
  | .request source .. | .resolve source _ => source

variable {l : CallRegister} {source : String}

/-- Whether this is the record of a call id in the open scope of a source. -/
def IsOpen (l : CallRegister) (source id : String) (r : ToolRecord) : Prop :=
  ∃ scope ∈ l.active? source, r ∈ scope.records ∧ r.call.id = id

theorem active?_of_get? {history : ToolHistory} (known : l.histories.get? source = some history) :
    l.active? source = some history.active := by
  rw [active?, known]
  rfl

/-- A source has one record of a call id in its open scope. -/
theorem Sound.isOpen_unique (sound : l.Sound) {id : String} {r other : ToolRecord}
    (first : l.IsOpen source id r) (second : l.IsOpen source id other) : other = r := by
  obtain ⟨scope, active, member, rfl⟩ := first
  obtain ⟨scope', active', member', same⟩ := second
  obtain rfl : scope' = scope := Option.mem_unique active' active
  have listed : scope' ∈ l.scopes source := by
    rw [active?_eq] at active
    exact List.mem_of_mem_head? active
  exact List.inj_on_of_nodup_map (sound.scope source scope' listed).distinct member' member same

/-! ## Results -/

inductive Resolved (l : CallRegister) (source : String) (result : ToolResult) :
    CallRegister × ResolveOutcome → Prop
  /-- Its record waits, and gets it. -/
  | correlated {history : ToolHistory} {index : Nat} {r : ToolRecord}
      (known : l.histories.get? source = some history)
      (here : history.active.records[index]? = some r) (same : r.call.id = result.callId)
      (waits : r.result = none) :
      Resolved l source result (⟨l.histories.set source { history with
        active := { history.active with
          records := history.active.records.set index { r with result := some result } } }⟩,
        .correlated)
  /-- Its record has a result. -/
  | alreadyResolved {r : ToolRecord} (isOpen : l.IsOpen source result.callId r)
      (resolved : r.isResolved = true) : Resolved l source result (l, .alreadyResolved)
  /-- There is no record for it. -/
  | orphaned (unknown : ∀ r, ¬ l.IsOpen source result.callId r) :
      Resolved l source result (l, .orphaned)

theorem resolved (l : CallRegister) (source : String) (result : ToolResult) :
    Resolved l source result (l.resolve source result) := by
  obtain ⟨orphaned, unknown⟩ |
    ⟨history, index, r, known, -, here, same, ⟨resolved, late⟩ | ⟨waits, answers⟩⟩ :=
    l.resolve_forms source result
  · rw [orphaned]
    refine .orphaned ?_
    rintro r ⟨scope, active, member, same⟩
    obtain ⟨history, known, rfl⟩ := Option.map_eq_some_iff.mp (Option.mem_def.mp active)
    have absent := (history.active.indexOf?_eq_none_iff result.callId).mp (unknown history known)
    exact absent (List.mem_map.mpr ⟨r, member, same⟩)
  · rw [late]
    exact .alreadyResolved ⟨_, active?_of_get? known, List.mem_of_getElem? here, same⟩ resolved
  · rw [answers]
    exact .correlated known here same waits

/-- Each outcome of a result says which record is there for it. -/
theorem Sound.resolve_snd_iff (sound : l.Sound) (source : String) (result : ToolResult) :
    ((l.resolve source result).2 = .correlated ↔
      ∃ r, l.IsOpen source result.callId r ∧ r.result = none) ∧
    ((l.resolve source result).2 = .alreadyResolved ↔
      ∃ r, l.IsOpen source result.callId r ∧ r.isResolved = true) ∧
    ((l.resolve source result).2 = .orphaned ↔ ∀ r, ¬ l.IsOpen source result.callId r) := by
  have resolved := l.resolved source result
  generalize l.resolve source result = next at resolved
  cases resolved with
  | @correlated _ _ r known here same waits =>
    have isOpen : l.IsOpen source result.callId r :=
      ⟨_, active?_of_get? known, List.mem_of_getElem? here, same⟩
    have unresolved : ∀ other, l.IsOpen source result.callId other → other.isResolved = false := by
      intro other there
      rw [sound.isOpen_unique isOpen there, ToolRecord.isResolved, waits]
      rfl
    refine ⟨by simpa using ⟨r, isOpen, waits⟩, ?_, ?_⟩
    · simpa using unresolved
    · simpa using ⟨r, isOpen⟩
  | @alreadyResolved r isOpen resolved =>
    have answered : ∀ other, l.IsOpen source result.callId other → other.result ≠ none := by
      intro other there
      rw [sound.isOpen_unique isOpen there]
      exact Option.isSome_iff_ne_none.mp resolved
    refine ⟨by simpa using answered, by simpa using ⟨r, isOpen, resolved⟩, ?_⟩
    simpa using ⟨r, isOpen⟩
  | orphaned unknown => simp [unknown]

/-! ## Requests -/

/-- The calls of a request that get a record in a scope: the first one of every id that has none. -/
def newCalls (scope : ToolScope) (calls : List ToolCall) : List ToolCall :=
  firstBy (fun call => some call.id)
    (calls.filter fun call => call.id ∉ scope.records.map fun r => r.call.id)

inductive Requested (l : CallRegister) (source : String) (trigger : Nat) (calls : List ToolCall) :
    CallRegister × RequestOutcome → Prop
  /-- The open scope is of a later request. -/
  | stale {active : Nat} (known : l.activeTrigger? source = some active) (later : trigger < active) :
      Requested l source trigger calls (l, .stale)
  /-- The open scope is of the same request, and calls are added. -/
  | extended {history : ToolHistory} (known : l.histories.get? source = some history)
      (same : history.active.trigger = trigger) :
      Requested l source trigger calls (⟨l.histories.set source { history with
        active := { history.active with
          records := history.active.records ++ (newCalls history.active calls).map .pending } }⟩,
        .extended)
  /-- A scope is opened in front of the others. -/
  | opened (newer : ∀ active ∈ l.activeTrigger? source, active < trigger) :
      Requested l source trigger calls (⟨l.histories.set source
        ⟨⟨trigger, (firstBy (fun call => some call.id) calls).map .pending⟩, l.scopes source⟩⟩,
        .opened)

theorem requested (l : CallRegister) (source : String) (trigger : Nat) (calls : List ToolCall) :
    Requested l source trigger calls (l.request source trigger calls) := by
  have active := l.activeTrigger?_eq source
  obtain ⟨scope, older, listed, later, stale⟩ | ⟨scope, older, listed, same, extended⟩ |
    ⟨newer, opened⟩ := l.request_cases source trigger calls
  · rw [stale]
    rw [listed] at active
    exact .stale active later
  · rw [extended, ToolScope.addAll_eq]
    exact .extended (get?_of_scopes_cons listed) same
  · rw [opened, ToolScope.addAll_start]
    refine .opened ?_
    intro trigger' known
    rw [active] at known
    obtain ⟨scope, first, rfl⟩ := Option.map_eq_some_iff.mp known
    exact newer scope first

/-- Each outcome of a request says how its number stands to that of the open scope. -/
theorem request_snd_iff (l : CallRegister) (source : String) (trigger : Nat) (calls : List ToolCall) :
    ((l.request source trigger calls).2 = .stale ↔
      ∃ active ∈ l.activeTrigger? source, trigger < active) ∧
    ((l.request source trigger calls).2 = .extended ↔ l.activeTrigger? source = some trigger) ∧
    ((l.request source trigger calls).2 = .opened ↔
      ∀ active ∈ l.activeTrigger? source, active < trigger) := by
  have requested := l.requested source trigger calls
  generalize l.request source trigger calls = next at requested
  cases requested with
  | stale known later => simp [known]; omega
  | @extended history known same =>
    have active : l.activeTrigger? source = some trigger := by
      rw [activeTrigger?, active?_of_get? known, Option.map_some, same]
    simp [active]
  | opened newer =>
    cases known : l.activeTrigger? source with
    | none => simp
    | some active =>
      have before := newer active known
      simp; omega

/-- A scope that is opened can be read under its number, the one that was open under its own, and what was
read under any other number still is. -/
theorem read_opened {trigger : Nat} {calls : List ToolCall}
    (opened : (l.request source trigger calls).2 = .opened) :
    let next := (l.request source trigger calls).1
    next.activeTrigger? source = some trigger ∧
      next.recordsFor source trigger = (firstBy (fun call => some call.id) calls).map .pending ∧
      (∀ scope ∈ l.active? source, next.recordsFor source scope.trigger = scope.records) ∧
      ∀ message, message ≠ trigger → next.recordsFor source message = l.recordsFor source message := by
  have requested := l.requested source trigger calls
  generalize l.request source trigger calls = next at requested opened
  cases requested with
  | stale | extended => contradiction
  | opened newer =>
    intro next
    have listed : next.scopes source =
        ⟨trigger, (firstBy (fun call => some call.id) calls).map .pending⟩ :: l.scopes source := by
      rw [scopes_set, if_pos rfl]
    have others : ∀ message, message ≠ trigger →
        next.recordsFor source message = l.recordsFor source message := by
      intro message different
      rw [recordsFor_eq, recordsFor_eq, listed, List.find?_cons_of_neg (by simpa using different.symm)]
    refine ⟨by rw [activeTrigger?_eq, listed]; rfl, by simp [recordsFor_eq, listed], ?_, others⟩
    intro scope active
    have known : l.activeTrigger? source = some scope.trigger := by
      rw [activeTrigger?, Option.mem_def.mp active, Option.map_some]
    have before := newer scope.trigger known
    obtain ⟨older, first⟩ := List.head?_eq_some_iff.mp (l.active?_eq source ▸ Option.mem_def.mp active)
    rw [others _ (Nat.ne_of_lt before), recordsFor_eq, first]
    simp

/-! ## Other sources -/

theorem carryOut_writes (l : CallRegister) (operation : Operation) :
    l.carryOut operation = l ∨
      ∃ history, l.carryOut operation = ⟨l.histories.set operation.source history⟩ := by
  cases operation with
  | request source trigger calls => exact l.request_writes source trigger calls
  | resolve source result => exact l.resolve_writes source result

/-- An operation for one source leaves all that is read of another one as it is. -/
theorem frame_carryOut (l : CallRegister) {operation : Operation} {other : String}
    (different : other ≠ operation.source) :
    let next := l.carryOut operation
    (∀ message, next.recordsFor other message = l.recordsFor other message) ∧
      next.activeTrigger? other = l.activeTrigger? other ∧
      (next.unresolved.filter fun pair => pair.1 = other).map Prod.snd =
        (l.unresolved.filter fun pair => pair.1 = other).map Prod.snd := by
  intro next
  have writes : next = l ∨ ∃ history, next = ⟨l.histories.set operation.source history⟩ :=
    l.carryOut_writes operation
  have same : next.scopes other = l.scopes other := by
    obtain unchanged | ⟨history, written⟩ := writes
    · rw [unchanged]
    · rw [written, scopes_set, if_neg different]
  refine ⟨fun message => by rw [recordsFor_eq, recordsFor_eq, same],
    by rw [activeTrigger?_eq, activeTrigger?_eq, same], ?_⟩
  rw [unresolved_of_source, unresolved_of_source, unresolvedOf_eq, unresolvedOf_eq, same]

/-! ## The form with an index -/

/-- The form with an index never follows a position that leads nowhere, and tells the same of a result and
of a request, with registers behind them that again hold the same. -/
theorem indexed_agrees (operations : List Operation) :
    ∃ k, IndexedRegister.after? operations = some k ∧ k.Represents (after operations) ∧
      (∀ source trigger calls,
        (k.request source trigger calls).2 = ((after operations).request source trigger calls).2 ∧
        (k.request source trigger calls).1.Represents
          ((after operations).request source trigger calls).1) ∧
      ∀ source result, ∃ k',
        k.resolve? source result = some (k', ((after operations).resolve source result).2) ∧
        k'.Represents ((after operations).resolve source result).1 := by
  obtain ⟨k, done, represents⟩ := IndexedRegister.represents_empty.after operations
  exact ⟨k, done, represents, represents.request, represents.resolve⟩

/-- Outcomes tell what was done. A result is correlated exactly if the open scope of its source has a
record of its call that waits, and then nothing in the register changes but that this record gets it; it
comes too late exactly if this record has a result, and is orphaned exactly if there is no such record, and
then the register stays as it is. A request is stale exactly if the open scope has a greater number, and
then the register stays as it is; where it has the same number, records that wait are added behind those of
the scope, one for each new id in the order of the calls; and else a scope with one record for each id is
opened, and all that was open or sealed is read under its own number as before. Nothing that is done for
one source changes what is read of another. A register that is emptied is the one of no operations. -/
theorem outcomes_exact (operations : List Operation) :
    let l := after operations
    (∀ source result,
      let next := l.resolve source result
      (next.2 = .correlated ↔ ∃ r, l.IsOpen source result.callId r ∧ r.result = none) ∧
      (next.2 = .alreadyResolved ↔ ∃ r, l.IsOpen source result.callId r ∧ r.isResolved = true) ∧
      (next.2 = .orphaned ↔ ∀ r, ¬ l.IsOpen source result.callId r) ∧
      (next.2 = .correlated → ∃ history index r, l.histories.get? source = some history ∧
        history.active.records[index]? = some r ∧ r.call.id = result.callId ∧ r.result = none ∧
        next.1 = ⟨l.histories.set source { history with active := { history.active with
          records := history.active.records.set index { r with result := some result } } }⟩) ∧
      (next.2 ≠ .correlated → next.1 = l)) ∧
    (∀ source trigger calls,
      let next := l.request source trigger calls
      (next.2 = .stale ↔ ∃ active ∈ l.activeTrigger? source, trigger < active) ∧
      (next.2 = .extended ↔ l.activeTrigger? source = some trigger) ∧
      (next.2 = .opened ↔ ∀ active ∈ l.activeTrigger? source, active < trigger) ∧
      (next.2 = .stale → next.1 = l) ∧
      (next.2 = .extended → ∃ history, l.histories.get? source = some history ∧
        next.1 = ⟨l.histories.set source { history with active := { history.active with
          records := history.active.records ++ (newCalls history.active calls).map .pending } }⟩) ∧
      (next.2 = .opened → next.1.activeTrigger? source = some trigger ∧
        next.1.recordsFor source trigger = (firstBy (fun call => some call.id) calls).map .pending ∧
        (∀ scope ∈ l.active? source, next.1.recordsFor source scope.trigger = scope.records) ∧
        ∀ message, message ≠ trigger →
          next.1.recordsFor source message = l.recordsFor source message)) ∧
    (∀ operation other, other ≠ operation.source →
      let next := l.carryOut operation
      (∀ message, next.recordsFor other message = l.recordsFor other message) ∧
      next.activeTrigger? other = l.activeTrigger? other ∧
      (next.unresolved.filter fun pair => pair.1 = other).map Prod.snd =
        (l.unresolved.filter fun pair => pair.1 = other).map Prod.snd) ∧
    ∃ k, IndexedRegister.after? operations = some k ∧ k.Represents l ∧
      (∀ source trigger calls,
        (k.request source trigger calls).2 = (l.request source trigger calls).2 ∧
        (k.request source trigger calls).1.Represents (l.request source trigger calls).1) ∧
      ∀ source result, ∃ k',
        k.resolve? source result = some (k', (l.resolve source result).2) ∧
        k'.Represents (l.resolve source result).1 := by
  intro l
  have sound : l.Sound := (sound_empty.after operations).1
  refine ⟨?results, ?requests, fun _ _ => l.frame_carryOut, indexed_agrees operations⟩
  case results =>
    intro source result next
    obtain ⟨correlated, late, orphaned⟩ := sound.resolve_snd_iff source result
    refine ⟨correlated, late, orphaned, ?_⟩
    have resolved : l.Resolved source result next := l.resolved source result
    generalize next = next at resolved
    cases resolved with
    | correlated known here same waits => exact ⟨fun _ => ⟨_, _, _, known, here, same, waits, rfl⟩, by simp⟩
    | alreadyResolved | orphaned => simp
  case requests =>
    intro source trigger calls next
    obtain ⟨stale, extended, opened⟩ := l.request_snd_iff source trigger calls
    refine ⟨stale, extended, opened, ?_, ?_, read_opened⟩
    all_goals
      have requested : l.Requested source trigger calls next := l.requested source trigger calls
      generalize next = next at requested
      cases requested with
      | stale | opened => simp
      | extended known => simp [known]

/-- One register can have every outcome before it. -/
theorem outcomes_exact_everyOutcome :
    let call (id : String) : ToolCall := ⟨id, "look", "{}"⟩
    let result (id : String) : ToolResult := ⟨id, "done", none, none⟩
    let l := after [.request "a" 1 [call "x", call "y"], .resolve "a" (result "x")]
    (l.resolve "a" (result "y")).2 = .correlated ∧
      l.resolve "a" (result "x") = (l, .alreadyResolved) ∧
      l.resolve "a" (result "z") = (l, .orphaned) ∧
      l.request "a" 0 [call "z"] = (l, .stale) ∧
      (l.request "a" 1 [call "z"]).2 = .extended ∧
      (l.request "a" 2 [call "z"]).2 = .opened ∧
      (l.request "a" 2 [call "z"]).1.recordsFor "a" 1 =
        [⟨call "x", some (result "x")⟩, .pending (call "y")] := by
  intro call result l
  obtain ⟨results, requests, -, -⟩ :=
    outcomes_exact [.request "a" 1 [call "x", call "y"], .resolve "a" (result "x")]
  have answered : l.IsOpen "a" "x" ⟨call "x", some (result "x")⟩ := ⟨_, rfl, by decide, rfl⟩
  have waiting : l.IsOpen "a" "y" (.pending (call "y")) := ⟨_, rfl, by decide, rfl⟩
  have unknown : ∀ r, ¬ l.IsOpen "a" "z" r := by
    rintro r ⟨scope, active, member, same⟩
    obtain rfl := Option.some.inj active
    have ids : ∀ r ∈ [⟨call "x", some (result "x")⟩, ToolRecord.pending (call "y")],
        r.call.id ≠ "z" := by decide
    exact ids r member same
  have late := (results "a" (result "x")).2.1.mpr ⟨_, answered, rfl⟩
  have orphaned := (results "a" (result "z")).2.2.1.mpr unknown
  have stale := (requests "a" 0 [call "z"]).1.mpr ⟨1, rfl, by decide⟩
  have opened := (requests "a" 2 [call "z"]).2.2.1.mpr (by decide)
  refine ⟨(results "a" (result "y")).1.mpr ⟨_, waiting, rfl⟩, ?_, ?_, ?_,
    (requests "a" 1 [call "z"]).2.1.mpr rfl, opened, ?_⟩
  · exact Prod.ext ((results "a" (result "x")).2.2.2.2 (by simp [late])) late
  · exact Prod.ext ((results "a" (result "z")).2.2.2.2 (by simp [orphaned])) orphaned
  · exact Prod.ext ((requests "a" 0 [call "z"]).2.2.2.1 stale) stale
  · exact ((requests "a" 2 [call "z"]).2.2.2.2.2 opened).2.2.1 _ rfl

end Transcript.CallRegister
