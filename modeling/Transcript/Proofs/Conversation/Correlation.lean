import Transcript.Proofs.Conversation.Rebuilding
import Transcript.Proofs.Conversation.Scopes

/-! # The log says which result answers which call

What the records of a request are can be read off the messages alone: its calls, one for each id, and
for each the first result between the request and the next one of the same source (`recordsIn`). The
register of a reachable conversation holds exactly these records (`Log.Rebuilt.scopes`), though it has
been kept up to date message by message.
-/

namespace Transcript

namespace Message

def callsOf? (m : Message) (source : String) : Option (List ToolCall) :=
  match m.content with
  | .toolCalls calls => if m.source = source then some calls else none
  | _ => none

def resultsOf (m : Message) (source : String) : List ToolResult :=
  match m.content with
  | .toolResults results => if m.source = source then results else []
  | _ => []

end Message

/-- The results of a source after the message with a number and before its next request. -/
def answersIn (ms : List Message) (source : String) (seq : Nat) : List ToolResult :=
  ((ms.drop (seq + 1)).takeWhile fun m => (m.callsOf? source).isNone).flatMap fun m =>
    m.resultsOf source

/-- The calls of the message with a number, if it is a request of the source. -/
def requestIn? (ms : List Message) (source : String) (seq : Nat) : Option (List ToolCall) :=
  ms[seq]?.bind fun m => m.callsOf? source

/-- The records of calls, each with the first result for it. -/
def recordsOf (calls : List ToolCall) (results : List ToolResult) : List ToolRecord :=
  (firstBy (fun call : ToolCall => some call.id) calls).map fun call =>
    ⟨call, results.find? fun result => result.callId = call.id⟩

/-- The records of the message with a number, none if it is no request of the source. -/
def recordsIn (ms : List Message) (source : String) (seq : Nat) : List ToolRecord :=
  match requestIn? ms source seq with
  | some calls => recordsOf calls (answersIn ms source seq)
  | none => []

/-- The numbers of the requests of a source, in order. -/
def requestsIn (ms : List Message) (source : String) : List Nat :=
  (List.range ms.length).filter fun seq => (requestIn? ms source seq).isSome

/-- The scopes of a source by its messages, the latest one in front. -/
def scopesIn (ms : List Message) (source : String) : List ToolScope :=
  (requestsIn ms source).reverse.map fun seq => ⟨seq, recordsIn ms source seq⟩

/-! ## One more message -/

theorem requestIn?_concat (ms : List Message) (m : Message) (source : String) {seq : Nat}
    (bound : seq < ms.length) : requestIn? (ms ++ [m]) source seq = requestIn? ms source seq := by
  rw [requestIn?, List.getElem?_append_left bound]
  rfl

theorem requestsIn_concat (ms : List Message) (m : Message) (source : String) :
    requestsIn (ms ++ [m]) source =
      requestsIn ms source ++ if (m.callsOf? source).isSome then [ms.length] else [] := by
  have same : (List.range ms.length).filter (fun seq => (requestIn? (ms ++ [m]) source seq).isSome) =
      requestsIn ms source := by
    apply List.filter_congr
    intro seq member
    rw [requestIn?_concat ms m source (List.mem_range.mp member)]
  have last : requestIn? (ms ++ [m]) source ms.length = m.callsOf? source := by
    simp [requestIn?]
  rw [requestsIn, List.length_append, List.length_singleton, List.range_succ, List.filter_append,
    same]
  cases calls : m.callsOf? source <;> simp [last, calls]

/-- Whether no request of the source follows the message with a number. -/
def isOpenIn (ms : List Message) (source : String) (seq : Nat) : Bool :=
  (ms.drop (seq + 1)).all fun m => (m.callsOf? source).isNone

private theorem flatMap_takeWhile_concat {α β : Type} (p : α → Bool) (f : α → List β) (xs : List α)
    (x : α) :
    ((xs ++ [x]).takeWhile p).flatMap f =
      (xs.takeWhile p).flatMap f ++ if xs.all p && p x then f x else [] := by
  induction xs with
  | nil => cases held : p x <;> simp [held]
  | cons y rest ih => cases held : p y <;> simp [held, ih]

/-- A message adds its results to the answers of an open request and to no others. -/
theorem answersIn_concat (ms : List Message) (m : Message) (source : String) {seq : Nat}
    (bound : seq < ms.length) :
    answersIn (ms ++ [m]) source seq =
      answersIn ms source seq ++
        if isOpenIn ms source seq && (m.callsOf? source).isNone then m.resultsOf source else [] := by
  have dropped : (ms ++ [m]).drop (seq + 1) = ms.drop (seq + 1) ++ [m] :=
    List.drop_append_of_le_length bound
  rw [answersIn, dropped, flatMap_takeWhile_concat]
  rfl

theorem recordsOf_append (calls : List ToolCall) (before after : List ToolResult) (trigger : Nat) :
    recordsOf calls (before ++ after) =
      ((⟨trigger, recordsOf calls before⟩ : ToolScope).answerAll after).records := by
  simp only [recordsOf, ToolScope.answerAll, List.map_map, List.find?_append, Function.comp_def]

theorem scopeIn_concat (ms : List Message) (m : Message) (source : String) {seq : Nat}
    (bound : seq < ms.length) :
    (⟨seq, recordsIn (ms ++ [m]) source seq⟩ : ToolScope) =
      (⟨seq, recordsIn ms source seq⟩ : ToolScope).answerAll
        (if isOpenIn ms source seq && (m.callsOf? source).isNone then m.resultsOf source
        else []) := by
  unfold recordsIn
  rw [requestIn?_concat ms m source bound, answersIn_concat ms m source bound]
  cases requestIn? ms source seq with
  | none => rfl
  | some calls => simp only [recordsOf_append calls _ _ seq]; rfl

theorem mem_requestsIn {ms : List Message} {source : String} {seq : Nat} :
    seq ∈ requestsIn ms source ↔ ∃ m, ms[seq]? = some m ∧ (m.callsOf? source).isSome := by
  simp only [requestsIn, List.mem_filter, List.mem_range, requestIn?, Option.isSome_bind]
  constructor
  · rintro ⟨bound, request⟩
    rw [List.getElem?_eq_getElem bound] at request ⊢
    exact ⟨ms[seq], rfl, by simpa using request⟩
  · rintro ⟨m, here, request⟩
    obtain ⟨bound, rfl⟩ := List.getElem?_eq_some_iff.mp here
    exact ⟨bound, by simpa [here] using request⟩

/-- A request is open if its source makes none after it. -/
theorem isOpenIn_iff {ms : List Message} {source : String} {seq : Nat} :
    isOpenIn ms source seq = true ↔ ∀ later ∈ requestsIn ms source, later ≤ seq := by
  simp only [isOpenIn, List.all_eq_true]
  constructor
  · intro quiet later member
    obtain ⟨m, here, request⟩ := mem_requestsIn.mp member
    by_contra after
    have dropped : (ms.drop (seq + 1))[later - (seq + 1)]? = some m := by
      rw [List.getElem?_drop, show seq + 1 + (later - (seq + 1)) = later by omega, here]
    have none := quiet m (List.mem_of_getElem? dropped)
    simp [Option.isNone_iff_eq_none.mp none] at request
  · intro bounded m member
    obtain ⟨offset, here⟩ := List.mem_iff_getElem?.mp member
    rw [List.getElem?_drop] at here
    by_contra request
    have later := bounded (seq + 1 + offset)
      (mem_requestsIn.mpr ⟨m, here, by simpa [Option.isSome_iff_ne_none] using request⟩)
    omega

theorem pairwise_requestsIn (ms : List Message) (source : String) :
    (requestsIn ms source).Pairwise (· < ·) :=
  List.pairwise_lt_range.filter _

theorem lt_of_mem_requestsIn {ms : List Message} {source : String} {seq : Nat}
    (member : seq ∈ requestsIn ms source) : seq < ms.length :=
  List.mem_range.mp (List.mem_filter.mp member).1

/-- Of the requests of a source, the last one is open and no other. -/
theorem isOpenIn_of_listed {ms : List Message} {source : String} {older : List Nat} {last : Nat}
    (listed : requestsIn ms source = older ++ [last]) :
    isOpenIn ms source last = true ∧ ∀ seq ∈ older, isOpenIn ms source seq = false := by
  have ordered := listed ▸ pairwise_requestsIn ms source
  have before : ∀ seq ∈ older, seq < last := fun seq earlier =>
    (List.pairwise_append.mp ordered).2.2 seq earlier last (List.mem_singleton_self last)
  constructor
  · rw [isOpenIn_iff, listed]
    intro seq member
    rcases List.mem_append.mp member with earlier | same
    · exact Nat.le_of_lt (before seq earlier)
    · exact Nat.le_of_eq (List.mem_singleton.mp same)
  · intro seq earlier
    rw [Bool.eq_false_iff, ne_eq, isOpenIn_iff, listed]
    intro bounded
    have late := bounded last (List.mem_append_right older (List.mem_singleton_self last))
    exact absurd (before seq earlier) (Nat.not_lt_of_le late)

/-- The scopes after one more message: a request opens one, and results reach the first one. -/
theorem scopesIn_concat (ms : List Message) (m : Message) (source : String) :
    scopesIn (ms ++ [m]) source =
      match m.callsOf? source with
      | some calls => ⟨ms.length, recordsOf calls []⟩ :: scopesIn ms source
      | none => (scopesIn ms source).modifyHead fun scope => scope.answerAll (m.resultsOf source) := by
  have unchanged : ∀ seq ∈ requestsIn ms source,
      (isOpenIn ms source seq && (m.callsOf? source).isNone) = false →
      (⟨seq, recordsIn (ms ++ [m]) source seq⟩ : ToolScope) = ⟨seq, recordsIn ms source seq⟩ := by
    intro seq member closed
    rw [scopeIn_concat ms m source (lt_of_mem_requestsIn member), closed]
    exact ToolScope.answerAll_nil _
  unfold scopesIn
  rw [requestsIn_concat]
  cases asked : m.callsOf? source with
  | some calls =>
    have opened : recordsIn (ms ++ [m]) source ms.length = recordsOf calls [] := by
      have here : requestIn? (ms ++ [m]) source ms.length = some calls := by
        simp [requestIn?, asked]
      simp [recordsIn, here, answersIn]
    have older := fun seq member => unchanged seq (List.mem_reverse.mp member) (by simp [asked])
    simp only [Option.isSome_some, if_true, List.reverse_append, List.reverse_singleton,
      List.singleton_append, List.map_cons, opened, List.map_congr_left older]
  | none =>
    simp only [Option.isSome_none, Bool.false_eq_true, if_false, List.append_nil]
    obtain empty | ⟨older, last, listed⟩ := List.eq_nil_or_concat' (requestsIn ms source)
    · simp [empty]
    · -- Only the last request is open, so the results reach its scope and pass the older ones.
      obtain ⟨still, shut⟩ := isOpenIn_of_listed listed
      have kept : ∀ seq ∈ older.reverse,
          (⟨seq, recordsIn (ms ++ [m]) source seq⟩ : ToolScope) = ⟨seq, recordsIn ms source seq⟩ := by
        intro seq member
        have earlier := List.mem_reverse.mp member
        apply unchanged seq (listed ▸ List.mem_append_left _ earlier)
        rw [shut seq earlier, Bool.false_and]
      have reached := scopeIn_concat ms m source
        (lt_of_mem_requestsIn (listed ▸ List.mem_append_right older (List.mem_singleton_self last)))
      simp only [still, asked, Option.isNone_none, Bool.and_self, if_true] at reached
      simp only [listed, List.reverse_append, List.reverse_singleton, List.singleton_append,
        List.map_cons, List.modifyHead_cons, reached, List.map_congr_left kept]

/-! ## The register follows the messages -/

theorem trigger_lt_of_mem_scopesIn {ms : List Message} {source : String} {scope : ToolScope}
    (member : scope ∈ scopesIn ms source) : scope.trigger < ms.length := by
  obtain ⟨seq, request, rfl⟩ := List.mem_map.mp member
  exact lt_of_mem_requestsIn (List.mem_reverse.mp request)

theorem distinct_recordsOf (trigger : Nat) (calls : List ToolCall) (results : List ToolResult) :
    (⟨trigger, recordsOf calls results⟩ : ToolScope).Distinct := by
  have unique := nodup_firstBy (fun call : ToolCall => some call.id) calls
  simpa [ToolScope.Distinct, recordsOf, Function.comp_def] using unique

theorem distinct_of_mem_scopesIn {ms : List Message} {source : String} {scope : ToolScope}
    (member : scope ∈ scopesIn ms source) : scope.Distinct := by
  obtain ⟨seq, -, rfl⟩ := List.mem_map.mp member
  unfold recordsIn
  split
  · exact distinct_recordsOf seq _ _
  · exact List.nodup_nil

/-- The scopes of every source after one more message in the register. -/
theorem CallRegister.scopes_enter (l : CallRegister) {seq : Nat} (m : Message)
    (newer : ∀ scope ∈ l.scopes m.source, scope.trigger < seq)
    (distinct : ∀ scope ∈ l.scopes m.source, scope.Distinct) (source : String) :
    (l.enter seq m).scopes source =
      match m.callsOf? source with
      | some calls => ⟨seq, recordsOf calls []⟩ :: l.scopes source
      | none => (l.scopes source).modifyHead fun scope => scope.answerAll (m.resultsOf source) := by
  have untouched := ToolScope.modifyHead_answerAll_nil (l.scopes source)
  obtain ⟨id, sender, content, usage⟩ := m
  cases content with
  | toolCalls calls =>
    simp only [CallRegister.enter, scopes_request l sender calls newer source, Message.callsOf?,
      Message.resultsOf, ToolScope.addAll_start]
    by_cases same : sender = source
    · simp only [same, if_true]; rfl
    · simp only [same, Ne.symm same, if_false, untouched]
  | toolResults results =>
    simp only [CallRegister.enter, scopes_foldl_resolve results l sender distinct source,
      Message.callsOf?, Message.resultsOf]
    by_cases same : sender = source
    · simp only [same, if_true]
    · simp only [same, Ne.symm same, if_false, untouched]
  | _ => exact untouched.symm

/-- The register of a rebuilt log holds the scopes that its messages say. -/
theorem Log.Rebuilt.scopes {l : Log} (rebuilt : l.Rebuilt) (source : String) :
    l.register.scopes source = scopesIn l.messages source := by
  apply rebuilt.invariant (P := fun l => ∀ source, l.register.scopes source =
    scopesIn l.messages source)
  · intro source
    rfl
  · intro l m agree _ source
    have newer : ∀ scope ∈ l.register.scopes m.source, scope.trigger < l.messages.length :=
      fun scope member => trigger_lt_of_mem_scopesIn (agree m.source ▸ member)
    have distinct : ∀ scope ∈ l.register.scopes m.source, scope.Distinct :=
      fun scope member => distinct_of_mem_scopesIn (agree m.source ▸ member)
    change (l.register.enter l.messages.length m).scopes source = scopesIn (l.messages ++ [m]) source
    rw [CallRegister.scopes_enter l.register m newer distinct, scopesIn_concat, agree]

theorem recordsIn_of_not_mem {ms : List Message} {source : String} {seq : Nat}
    (absent : seq ∉ requestsIn ms source) : recordsIn ms source seq = [] := by
  unfold recordsIn requestIn?
  cases here : ms[seq]? with
  | none => rfl
  | some m =>
    cases asked : m.callsOf? source with
    | none => simp [asked]
    | some calls => exact absurd (mem_requestsIn.mpr ⟨m, here, by simp [asked]⟩) absent

/-- A scope is found under the number of its request. -/
theorem find?_scopesIn (ms : List Message) (source : String) (seq : Nat) :
    (((scopesIn ms source).find? fun scope => scope.trigger = seq).map
      ToolScope.records).getD [] = recordsIn ms source seq := by
  rw [scopesIn, List.find?_map]
  cases found : (requestsIn ms source).reverse.find? ((fun scope => decide (scope.trigger = seq)) ∘
      fun seq => (⟨seq, recordsIn ms source seq⟩ : ToolScope)) with
  | some other =>
    obtain rfl : other = seq := by simpa using List.find?_some found
    rfl
  | none =>
    have absent : seq ∉ requestsIn ms source := by
      intro member
      have missed := List.find?_eq_none.mp found seq (List.mem_reverse.mpr member)
      simp at missed
    rw [recordsIn_of_not_mem absent]
    rfl

namespace Conversation

/-- The calls without a result in the last request of a source. -/
def waitingIn (ms : List Message) (source : String) : List ToolCall :=
  ((((requestsIn ms source).getLast?.map (recordsIn ms source)).getD []).filter fun r =>
    !r.isResolved).map ToolRecord.call

/-- The records of every message are those that the log says, and the calls that wait are those
without a result in the last request of their source. -/
theorem recordsFor_eq_recordsIn (settings : Settings) (operations : List Operation) :
    let c := (run operations (new settings)).1
    (∀ source seq, c.recordsFor source seq = recordsIn c.messages.toList source seq) ∧
      ∀ source, (c.unresolvedCalls.filter fun pair => pair.1 = source).map Prod.snd =
        waitingIn c.messages.toList source := by
  intro c
  have rebuilt : c.log.Rebuilt := rebuilt_run settings operations
  have scopes : ∀ source, c.register.scopes source = scopesIn c.messages.toList source :=
    rebuilt.scopes
  constructor
  · intro source seq
    rw [recordsFor, CallRegister.recordsFor_eq, scopes, find?_scopesIn]
  · intro source
    have apart : (c.register.unresolved.filter fun pair => pair.1 = source).map Prod.snd =
        c.register.unresolvedOf source :=
      c.register.unresolved_of_source source
    have calls : (c.unresolvedCalls.filter fun pair => pair.1 = source).map Prod.snd =
        (c.register.unresolvedOf source).map ToolRecord.call := by
      rw [← apart, unresolvedCalls]
      simp [List.filter_map, Function.comp_def]
    have last : (scopesIn c.messages.toList source).head?.map ToolScope.records =
        (requestsIn c.messages.toList source).getLast?.map (recordsIn c.messages.toList source) := by
      simp [scopesIn, Function.comp_def]
    rw [calls, CallRegister.unresolvedOf_eq, scopes, last, waitingIn]

end Conversation

end Transcript
