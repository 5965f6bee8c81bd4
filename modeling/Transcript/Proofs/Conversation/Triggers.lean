import Transcript.Proofs.Conversation.Announcement
import Transcript.Proofs.Conversation.Correlation
import Transcript.Proofs.Conversation.Outcomes

/-! # Scopes stand at the requests of the log

Live and from a stored run alike, a message gets its number when it is put at the end of the log, and the
register has taken every message before it. So the open scope of a source has the number of its last
request and the sealed ones have those of the earlier ones (`Log.Rebuilt.activeTrigger?_eq`,
`Log.Rebuilt.sealedTriggers_eq`), in the form with an index too, and a request always opens a scope
(`Log.Rebuilt.request_opened`): it is never stale and never adds to an open one. What is announced of calls
names the open scope after the event (`activeTrigger?_of_told`), hence a request of the log.
-/

namespace Transcript

/-! ## What the register was told -/

namespace CallRegister

/-- The numbers of the scopes of a source that are not open any more, the latest one first. -/
def sealedTriggers (l : CallRegister) (source : String) : List Nat :=
  ((l.histories.get? source).map fun history => history.sealed.map ToolScope.trigger).getD []

theorem sealedTriggers_eq (l : CallRegister) (source : String) :
    l.sealedTriggers source = ((l.scopes source).map ToolScope.trigger).tail := by
  unfold sealedTriggers scopes
  cases l.histories.get? source <;> rfl

/-- What is done to the register for the message with number `seq`. -/
def operationsOf (seq : Nat) (m : Message) : List Operation :=
  match m.content with
  | .toolCalls calls => [.request m.source seq calls]
  | .toolResults results => results.map (.resolve m.source)
  | _ => []

/-- What is done to the register for messages. -/
def operationsIn (ms : List Message) : List Operation :=
  ms.zipIdx.flatMap fun entry => operationsOf entry.2 entry.1

theorem operationsIn_concat (ms : List Message) (m : Message) :
    operationsIn (ms ++ [m]) = operationsIn ms ++ operationsOf ms.length m := by
  simp [operationsIn, List.zipIdx_append]

theorem enter_eq (l : CallRegister) (seq : Nat) (m : Message) :
    l.enter seq m = (operationsOf seq m).foldl carryOut l := by
  obtain ⟨id, source, content, usage⟩ := m
  cases content with
  | toolResults results =>
    rw [operationsOf, List.foldl_map]
    rfl
  | _ => rfl

end CallRegister

namespace Log.Rebuilt

variable {l : Log}

theorem register_eq (rebuilt : l.Rebuilt) :
    l.register = CallRegister.after (CallRegister.operationsIn l.messages) := by
  apply rebuilt.invariant (P := fun l =>
    l.register = CallRegister.after (CallRegister.operationsIn l.messages)) rfl
  intro l m same _
  change l.register.enter l.messages.length m = CallRegister.after _
  rw [CallRegister.enter_eq, same, enter, CallRegister.operationsIn_concat, CallRegister.after,
    CallRegister.after, List.foldl_append]

/-! ## Numbers of scopes -/

theorem triggers_eq (rebuilt : l.Rebuilt) (source : String) :
    (l.register.scopes source).map ToolScope.trigger = (requestsIn l.messages source).reverse := by
  rw [rebuilt.scopes, scopesIn, List.map_map]
  exact List.map_id _

theorem activeTrigger?_eq (rebuilt : l.Rebuilt) (source : String) :
    l.register.activeTrigger? source = (requestsIn l.messages source).getLast? := by
  rw [CallRegister.activeTrigger?_eq, ← List.head?_map, rebuilt.triggers_eq, List.head?_reverse]

theorem sealedTriggers_eq (rebuilt : l.Rebuilt) (source : String) :
    l.register.sealedTriggers source = (requestsIn l.messages source).dropLast.reverse := by
  rw [CallRegister.sealedTriggers_eq, rebuilt.triggers_eq, List.tail_reverse]

/-- In the form with an index, the open scopes and the table have these numbers too. -/
theorem exists_represents (rebuilt : l.Rebuilt) :
    ∃ k, IndexedRegister.after? (CallRegister.operationsIn l.messages) = some k ∧
      k.Represents l.register ∧ ∀ source,
        (k.active.get? source).map IndexedScope.trigger = (requestsIn l.messages source).getLast? ∧
        ∀ seq, (k.sealed.get? (source, seq)).isSome ↔ seq ∈ (requestsIn l.messages source).dropLast := by
  obtain ⟨k, done, represents⟩ := IndexedRegister.represents_empty.after
    (CallRegister.operationsIn l.messages)
  have represents : k.Represents l.register := rebuilt.register_eq ▸ represents
  refine ⟨k, done, represents, ?_⟩
  intro source
  constructor
  · have active : (k.active.get? source).map IndexedScope.trigger =
        ((k.active.get? source).map IndexedScope.toScope).map ToolScope.trigger := by
      rw [Option.map_map]
      rfl
    rw [active, represents.active, ← CallRegister.activeTrigger?_eq, rebuilt.activeTrigger?_eq]
  · intro seq
    have older : (l.register.scopes source).tail.map ToolScope.trigger =
        (requestsIn l.messages source).dropLast.reverse := by
      rw [← rebuilt.sealedTriggers_eq, CallRegister.sealedTriggers_eq, List.map_tail]
    rw [represents.sealed, Option.isSome_map, List.find?_isSome, ← List.mem_reverse, ← older, List.mem_map]
    simp only [decide_eq_true_eq]

/-- A request with the next number opens a scope. -/
theorem request_opened (rebuilt : l.Rebuilt) (source : String) (calls : List ToolCall) :
    (l.register.request source l.messages.length calls).2 = .opened := by
  apply (l.register.request_snd_iff source l.messages.length calls).2.2.mpr
  intro active known
  rw [rebuilt.activeTrigger?_eq] at known
  exact lt_of_mem_requestsIn (List.mem_of_getLast? known)

end Log.Rebuilt

/-! ## What is announced of calls -/

namespace CallRegister

/-- A request that is not ignored leaves the scope of its number open. -/
theorem activeTrigger?_request {l : CallRegister} {source : String} {trigger : Nat}
    {calls : List ToolCall} (entered : (l.request source trigger calls).2 ≠ .stale) :
    (l.request source trigger calls).1.activeTrigger? source = some trigger := by
  have requested := l.requested source trigger calls
  generalize l.request source trigger calls = next at requested entered
  cases requested with
  | stale => contradiction
  | extended known same => rw [activeTrigger?_eq, scopes_set, if_pos rfl, ← same]; rfl
  | opened newer => rw [activeTrigger?_eq, scopes_set, if_pos rfl]; rfl

end CallRegister

namespace Conversation

/-- Neither messages that are made of growing texts nor a move of the status are about calls. -/
theorem ne_told_of_mem_flush {c : Conversation} {change : Change} (member : change ∈ (flush c).2)
    (source : String) (seq : Nat) : change ≠ .toolCallsUpdated source seq := by
  rw [flush_snd] at member
  obtain ⟨_, -, rfl⟩ := List.mem_map.mp member
  simp

theorem ne_told_of_mem_moveStatus {c : Conversation} {status : Status} {change : Change}
    (member : change ∈ (moveStatus status c).2) (source : String) (seq : Nat) :
    change ≠ .toolCallsUpdated source seq := by
  unfold moveStatus at member
  cases moved : c.status.change? status <;> simp_all

section Told

variable {c : Conversation} {source : String} {seq : Nat}

theorem activeTrigger?_of_told_apply {e : Event}
    (told : .toolCallsUpdated source seq ∈ (apply e c).2) :
    e.source = source ∧ (apply e c).1.register.activeTrigger? source = some seq := by
  cases e with
  | toolCalls speaker id calls usage awaits =>
    have told : .toolCallsUpdated source seq ∈ [Change.appended c.messages.size] ++
        if (c.register.request speaker c.messages.size calls).2 = .stale then []
        else [.toolCallsUpdated speaker c.messages.size] := told
    split at told
    · simp at told
    · next entered =>
      obtain ⟨rfl, rfl⟩ : source = speaker ∧ seq = c.messages.size := by simpa using told
      exact ⟨rfl, CallRegister.activeTrigger?_request entered⟩
  | toolResults speaker id results awaits =>
    change speaker = source ∧
      (c.resolveResults speaker results).1.register.activeTrigger? source = some seq
    cases active : (c.resolveResults speaker results).1.register.activeTrigger? speaker with
    | none => simp [apply, active, append] at told
    | some message =>
      cases answered : (c.resolveResults speaker results).2 with
      | false => simp [apply, active, answered, append] at told
      | true =>
        obtain ⟨rfl, rfl⟩ : source = speaker ∧ seq = message := by
          simpa [apply, active, answered, append] using told
        exact ⟨rfl, active⟩
  | taskSummary | error =>
    rcases List.mem_append.mp told with flushed | last
    · exact absurd rfl (ne_told_of_mem_flush flushed source seq)
    · simp at last
  | text speaker id content usage awaits =>
    cases usage <;> simp [apply, Update.andThen, countTokens, append] at told
  | _ => simp [apply, append] at told

/-- Calls that are announced are those of the scope that an event leaves open for its source. -/
theorem activeTrigger?_of_told {e : Event} (told : .toolCallsUpdated source seq ∈ (dispatch e c).2) :
    e.source = source ∧ (dispatch e c).1.register.activeTrigger? source = some seq := by
  unfold dispatch at told ⊢
  split at told
  · simp at told
  · next fresh =>
    rw [if_neg fresh]
    rcases List.mem_append.mp told with applied | moved
    · exact activeTrigger?_of_told_apply applied
    · exact absurd rfl (ne_told_of_mem_moveStatus moved source seq)

end Told

/-- In every conversation that can be reached the open scope of a source has the number of its last
request in the log, if there is one, and the sealed scopes have the numbers of its earlier requests, one
each; and so it is in the form with an index. A request that is put at the end of the log opens a scope and
is announced, and one that is put there while a stored run is loaded opens a scope too. Where calls are
announced after an event, the announcement names a message of the log that is a request of the source of
the event, the last one. -/
theorem triggers_eq_requests (settings : Settings) (operations : List Operation) :
    let c := (run operations (new settings)).1
    (∀ source,
      c.register.activeTrigger? source = (requestsIn c.messages.toList source).getLast? ∧
      c.register.sealedTriggers source = (requestsIn c.messages.toList source).dropLast.reverse) ∧
    (∃ k, IndexedRegister.after? (CallRegister.operationsIn c.messages.toList) = some k ∧
      k.Represents c.register ∧ ∀ source,
        (k.active.get? source).map IndexedScope.trigger =
          (requestsIn c.messages.toList source).getLast? ∧
        ∀ seq, (k.sealed.get? (source, seq)).isSome ↔
          seq ∈ (requestsIn c.messages.toList source).dropLast) ∧
    (∀ source id calls usage awaits,
      let entered := (c.push ⟨id, source, .toolCalls calls, usage⟩).openCalls source c.messages.size calls
      entered.2 = .opened ∧
        apply (.toolCalls source id calls usage awaits) c =
          (entered.1, [.appended c.messages.size, .toolCallsUpdated source c.messages.size])) ∧
    (∀ (stored : Run) (count : Nat) m calls,
      let loading := (stored.messages.take count).foldl restore { c.cleared with runId := some stored.id }
      ((loading.push m).openCalls m.source loading.messages.size calls).2 = .opened) ∧
    ∀ e source seq, .toolCallsUpdated source seq ∈ (dispatch e c).2 →
      e.source = source ∧
      (requestsIn (dispatch e c).1.messages.toList source).getLast? = some seq ∧
      ∃ m calls, (dispatch e c).1.messages[seq]? = some m ∧ m.source = source ∧
        m.content = .toolCalls calls := by
  intro c
  have rebuilt : c.log.Rebuilt := rebuilt_run settings operations
  have opened : ∀ {c : Conversation}, c.log.Rebuilt → ∀ (m : Message) calls,
      ((c.push m).openCalls m.source c.messages.size calls).2 = .opened :=
    fun rebuilt m calls => rebuilt.request_opened m.source calls
  refine ⟨fun source => ⟨rebuilt.activeTrigger?_eq source, rebuilt.sealedTriggers_eq source⟩,
    rebuilt.exists_represents, ?live, ?loading, ?told⟩
  case live =>
    intro source id calls usage awaits entered
    have opens : entered.2 = .opened := opened rebuilt ⟨id, source, .toolCalls calls, usage⟩ calls
    have taken : apply (.toolCalls source id calls usage awaits) c =
        (entered.1, [.appended c.messages.size] ++
          if entered.2 = .stale then [] else [.toolCallsUpdated source c.messages.size]) := rfl
    refine ⟨opens, taken.trans ?_⟩
    rw [opens]
    rfl
  case loading =>
    intro stored count m calls loading
    have made : loading.log.Rebuilt := by
      change ((stored.messages.take count).foldl restore _).log.Rebuilt
      rw [foldl_restore]
      exact Log.rebuilt_ofMessages _
    exact opened made m calls
  case told =>
    intro e source seq told
    obtain ⟨same, active⟩ := activeTrigger?_of_told told
    have remade : (dispatch e c).1.log.Rebuilt := by
      rw [dispatch_fst]
      split
      · exact rebuilt
      · next fresh => exact rebuilt_accept rebuilt (Bool.eq_false_iff.mpr fresh)
    have last : (requestsIn (dispatch e c).1.messages.toList source).getLast? = some seq :=
      (remade.activeTrigger?_eq source).symm.trans active
    obtain ⟨m, here, asks⟩ := mem_requestsIn.mp (List.mem_of_getLast? last)
    refine ⟨same, last, m, ?_⟩
    obtain ⟨calls, content, speaker⟩ : ∃ calls, m.content = .toolCalls calls ∧ m.source = source := by
      unfold Message.callsOf? at asks
      split at asks
      · next calls content => exact ⟨calls, content, by simpa using asks⟩
      · simp at asks
    exact ⟨calls, by rw [← Array.getElem?_toList, here], speaker, content⟩

/-- Two requests of one source, with a text of another one between them. -/
def askedTwice : List Operation :=
  let call (id : String) : Json :=
    .arr [.obj [("arguments", .str "{}"), ("id", .str id), ("name", .str "look")]]
  [.input (.frame (.envelope (.obj [("content", call "x"), ("source", .str "a")]))),
    .input (.frame (.envelope (.obj [("content", .str "Hi"), ("source", .str "b")]))),
    .input (.frame (.envelope (.obj [("content", call "y"), ("source", .str "a")])))]

/-- A result for the second request is announced under its number. -/
theorem triggers_eq_requests_askedTwice :
    let c := (run askedTwice (new .default)).1
    let answer : Event := .toolResults "a" none [⟨"y", "done", none, none⟩] false
    .toolCallsUpdated "a" 2 ∈ (dispatch answer c).2 ∧
      c.register.activeTrigger? "a" = some 2 ∧ c.register.sealedTriggers "a" = [0] ∧
      ∃ m calls, (dispatch answer c).1.messages[2]? = some m ∧ m.source = "a" ∧
        m.content = .toolCalls calls := by
  intro c answer
  obtain ⟨numbers, -, -, -, named⟩ := triggers_eq_requests .default askedTwice
  have told : .toolCallsUpdated "a" 2 ∈ (dispatch answer c).2 := by decide +kernel
  have requests : requestsIn c.messages.toList "a" = [0, 2] := by decide +kernel
  obtain ⟨active, older⟩ := numbers "a"
  obtain ⟨-, -, m, calls, here, speaker, content⟩ := named answer "a" 2 told
  refine ⟨told, active.trans ?_, older.trans ?_, m, calls, by rw [here], speaker, content⟩
  · rw [requests]
    rfl
  · rw [requests]
    rfl

end Conversation

end Transcript
