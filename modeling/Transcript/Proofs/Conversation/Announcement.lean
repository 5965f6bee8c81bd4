import Transcript.Proofs.Conversation.Mirror
import Transcript.Proofs.Conversation.Scopes
import Transcript.Proofs.Conversation.SecondDelivery

/-! # What an input changes is announced

The changes of an input name every request whose records have changed and every source whose growing
text has, by its own name or by that of a new message (`Announced`). Only a second delivery is
silent: it changes nothing. There is one input that changes nothing either and is announced all the
same, an empty piece of a text that has begun (`dispatch_fst_eq_iff`).
-/

namespace Transcript

namespace Keyed

variable {κ α : Type} [DecidableEq κ]

theorem mem_entries_of_get? {m : Keyed κ α} {key : κ} {value : α} (known : m.get? key = some value) :
    (key, value) ∈ m.entries := by
  change find? key m.entries = some value at known
  generalize m.entries = entries at known ⊢
  induction entries with
  | nil => contradiction
  | cons entry rest ih =>
    obtain ⟨k, a⟩ := entry
    by_cases same : k = key
    · simp only [find?, same, if_true, Option.some.injEq] at known
      simp [same, known]
    · rw [find?, if_neg same] at known
      exact List.mem_cons_of_mem _ (ih known)

theorem set_of_get? {m : Keyed κ α} {key : κ} {value : α} (known : m.get? key = some value) :
    m.set key value = m := by
  ext1
  change find? key m.entries = some value at known
  change put key value m.entries = m.entries
  generalize m.entries = entries at known ⊢
  induction entries with
  | nil => contradiction
  | cons entry rest ih =>
    obtain ⟨k, a⟩ := entry
    by_cases same : k = key
    · simp only [find?, same, if_true, Option.some.injEq] at known
      rw [put, if_pos same, same, known]
    · rw [find?, if_neg same] at known
      rw [put, if_neg same, ih known]

end Keyed

/-! ## Records -/

namespace CallRegister

/-- The records under another number than that of the open scope are those of the older ones. -/
theorem recordsFor_of_scopes_eq_cons {l : CallRegister} {source : String} {scope : ToolScope}
    {older : List ToolScope} (listed : l.scopes source = scope :: older) {seq : Nat}
    (different : scope.trigger ≠ seq) :
    l.recordsFor source seq =
      ((older.find? fun scope => scope.trigger = seq).map ToolScope.records).getD [] := by
  rw [recordsFor_eq, listed, List.find?_cons_of_neg (by simpa using different)]

theorem recordsFor_set_of_ne (l : CallRegister) {source other : String} (different : other ≠ source)
    (history : ToolHistory) (seq : Nat) :
    recordsFor ⟨l.histories.set source history⟩ other seq = l.recordsFor other seq := by
  rw [recordsFor_eq, recordsFor_eq, scopes_set, if_neg different]

/-- A request is stale and ignored, or it leaves a scope of its own number in front of the others. -/
theorem request_outcome (l : CallRegister) (source : String) (trigger : Nat)
    (calls : List ToolCall) :
    (l.request source trigger calls).1 = l ∨
      (l.request source trigger calls).2 ≠ .stale ∧
      ∃ scope older, (l.request source trigger calls).1 = ⟨l.histories.set source ⟨scope, older⟩⟩ ∧
        scope.trigger = trigger ∧
        (l.scopes source = older ∨
          ∃ first, l.scopes source = first :: older ∧ first.trigger = trigger) := by
  obtain ⟨scope, older, -, -, stale⟩ | ⟨scope, older, listed, same, extended⟩ | ⟨-, opened⟩ :=
    l.request_cases source trigger calls
  · exact .inl (by rw [stale])
  · rw [extended]
    exact .inr ⟨by simp, _, _, rfl, (ToolScope.trigger_addAll calls _).trans same, .inr ⟨scope, listed, same⟩⟩
  · rw [opened]
    exact .inr ⟨by simp, _, _, rfl, ToolScope.trigger_addAll calls _, .inl rfl⟩

/-- A result leaves the register as it is, or it answers in the open scope of its source. -/
theorem resolve_outcome (l : CallRegister) (source : String) (result : ToolResult) :
    (l.resolve source result).1 = l ∨
      (l.resolve source result).2 = .correlated ∧
      ∃ history records, l.histories.get? source = some history ∧
        (l.resolve source result).1 = ⟨l.histories.set source
          { history with active := { history.active with records } }⟩ := by
  obtain ⟨orphaned, -⟩ | ⟨history, _, _, known, -, -, -, ⟨-, late⟩ | ⟨-, answers⟩⟩ :=
    l.resolve_forms source result
  · exact .inl (congrArg Prod.fst orphaned)
  · exact .inl (congrArg Prod.fst late)
  · rw [answers]
    exact .inr ⟨rfl, history, _, known, rfl⟩

/-- A request changes no records but those of its own message. -/
theorem recordsFor_request {l : CallRegister} {source other : String} {trigger seq : Nat}
    {calls : List ToolCall}
    (changed : (l.request source trigger calls).1.recordsFor other seq ≠ l.recordsFor other seq) :
    other = source ∧ seq = trigger ∧ (l.request source trigger calls).2 ≠ .stale := by
  obtain same | ⟨fresh, scope, older, written, number, before⟩ :=
    l.request_outcome source trigger calls
  · exact absurd (by rw [same]) changed
  rw [written] at changed
  obtain rfl : other = source := by
    by_contra different
    exact changed (recordsFor_set_of_ne l different _ _)
  refine ⟨rfl, ?_, fresh⟩
  by_contra different
  apply changed
  have front : scopes ⟨l.histories.set other ⟨scope, older⟩⟩ other = scope :: older := by
    rw [scopes_set, if_pos rfl]
  rw [recordsFor_of_scopes_eq_cons front (number ▸ Ne.symm different)]
  obtain opened | ⟨first, extended, same⟩ := before
  · rw [recordsFor_eq, opened]
  · rw [recordsFor_of_scopes_eq_cons extended (same ▸ Ne.symm different)]

/-- A result changes no records but those of the request that is open, and leaves it open. -/
theorem recordsFor_resolve (l : CallRegister) (source : String) (result : ToolResult) :
    (l.resolve source result).1.activeTrigger? source = l.activeTrigger? source ∧
      ∀ other seq,
        (l.resolve source result).1.recordsFor other seq ≠ l.recordsFor other seq →
        other = source ∧ l.activeTrigger? source = some seq ∧
          (l.resolve source result).2 = .correlated := by
  obtain same | ⟨correlated, history, records, known, written⟩ := l.resolve_outcome source result
  · rw [same]
    exact ⟨rfl, fun _ _ changed => absurd rfl changed⟩
  have before := scopes_of_get? known
  have after : (l.resolve source result).1.scopes source =
      { history.active with records } :: history.sealed := by
    rw [written, scopes_set, if_pos rfl]
  have trigger : l.activeTrigger? source = some history.active.trigger := by
    rw [activeTrigger?_eq, before]
    rfl
  refine ⟨by rw [activeTrigger?_eq, after, trigger]; rfl, ?_⟩
  intro other seq changed
  obtain rfl : other = source := by
    by_contra different
    exact changed (by rw [written, recordsFor_set_of_ne l different])
  refine ⟨rfl, ?_, correlated⟩
  rw [trigger, Option.some_inj]
  by_contra different
  apply changed
  rw [recordsFor_of_scopes_eq_cons after different, recordsFor_of_scopes_eq_cons before different]

/-- Results change no records but those of the request that is open, and then say so. -/
theorem recordsFor_foldl_resolve (results : List ToolResult) (source : String)
    (state : CallRegister × Bool) :
    let after := results.foldl
      (fun (state : CallRegister × Bool) result =>
        let (register, outcome) := state.1.resolve source result
        (register, state.2 || outcome = .correlated)) state
    after.1.activeTrigger? source = state.1.activeTrigger? source ∧
      (state.2 = true → after.2 = true) ∧
      ∀ other seq, after.1.recordsFor other seq ≠ state.1.recordsFor other seq →
        other = source ∧ state.1.activeTrigger? source = some seq ∧ after.2 = true := by
  induction results generalizing state with
  | nil => exact ⟨rfl, id, fun _ _ changed => absurd rfl changed⟩
  | cons result rest ih =>
    intro after
    obtain ⟨still, named⟩ := recordsFor_resolve state.1 source result
    obtain ⟨later, kept, told⟩ := ih ((state.1.resolve source result).1,
      state.2 || (state.1.resolve source result).2 = .correlated)
    refine ⟨later.trans still, fun before => kept (by simp [before]), ?_⟩
    intro other seq changed
    -- The records have changed through the first result or through a later one.
    by_cases first : (state.1.resolve source result).1.recordsFor other seq =
        state.1.recordsFor other seq
    · obtain ⟨here, active, flag⟩ := told other seq (first ▸ changed)
      exact ⟨here, still ▸ active, flag⟩
    · obtain ⟨here, active, correlated⟩ := named other seq first
      exact ⟨here, active, kept (by simp [correlated])⟩

end CallRegister

/-- Whether a content is a request or results, which the register takes. -/
def Content.isCall : Content → Bool
  | .toolCalls _ | .toolResults _ => true
  | _ => false

theorem Log.register_foldl_enter {ms : List Message} (quiet : ∀ m ∈ ms, m.content.isCall = false)
    (l : Log) : (ms.foldl enter l).register = l.register := by
  induction ms generalizing l with
  | nil => rfl
  | cons m rest ih =>
    obtain ⟨first, later⟩ := List.forall_mem_cons.mp quiet
    have kept : (l.enter m).register = l.register := by
      obtain ⟨id, source, content, usage⟩ := m
      cases content <;> first | contradiction | rfl
    rw [List.foldl_cons, ih later, kept]

namespace Conversation

/-- Whether the changes name all that an input has changed of what is kept by source. -/
structure Announced (c after : Conversation) (changes : List Change) : Prop where
  /-- The earlier messages are as they were. -/
  kept : c.messages.toList <+: after.messages.toList
  records : ∀ source seq, after.recordsFor source seq ≠ c.recordsFor source seq →
    .toolCallsUpdated source seq ∈ changes
  texts : ∀ source, after.pendingText source ≠ c.pendingText source →
    .streamUpdated source ∈ changes ∨
      ∃ seq m, .appended seq ∈ changes ∧ after.messages[seq]? = some m ∧ m.source = source

theorem isCall_of_mem_flushed {c : Conversation} {m : Message} (member : m ∈ c.flushed) :
    m.content.isCall = false := by
  obtain ⟨buffer, -, rfl⟩ := List.mem_map.mp member
  rfl

/-- Records that an event changes are named. -/
theorem recordsFor_apply (e : Event) (c : Conversation) (source : String) (seq : Nat)
    (changed : (apply e c).1.recordsFor source seq ≠ c.recordsFor source seq) :
    .toolCallsUpdated source seq ∈ (apply e c).2 := by
  have quiet : (∀ m ∈ c.finished (some e), m.content.isCall = false) →
      .toolCallsUpdated source seq ∈ (apply e c).2 := by
    intro texts
    have kept : (apply e c).1.register = c.register := by
      rw [apply_fst]
      exact Log.register_foldl_enter texts c.log
    exact absurd (congrArg (fun l => CallRegister.recordsFor l source seq) kept) changed
  have drained : ∀ last : Message, last.content.isCall = false →
      ∀ m ∈ c.flushed ++ [last], m.content.isCall = false := by
    intro last silent m member
    rcases List.mem_append.mp member with text | same
    · exact isCall_of_mem_flushed text
    · exact List.mem_singleton.mp same ▸ silent
  cases e with
  | toolCalls speaker id calls usage awaits =>
    obtain ⟨rfl, rfl, fresh⟩ := CallRegister.recordsFor_request (l := c.register) changed
    have told : (apply (.toolCalls source id calls usage awaits) c).2 =
        [.appended c.messages.size] ++
          if (c.register.request source c.messages.size calls).2 = .stale then []
          else [.toolCallsUpdated source c.messages.size] := rfl
    rw [told, if_neg fresh]
    simp
  | toolResults speaker id results awaits =>
    obtain ⟨active, -, named⟩ :=
      CallRegister.recordsFor_foldl_resolve results speaker (c.register, false)
    obtain ⟨rfl, trigger, correlated⟩ := named source seq changed
    have open? : (c.resolveResults source results).1.register.activeTrigger? source = some seq :=
      active.trans trigger
    have answered : (c.resolveResults source results).2 = true := correlated
    obtain ⟨resolved, updated⟩ := c.resolveResults source results
    simp [apply, open?, answered]
  | taskSummary speaker id summary awaits => exact quiet (drained _ rfl)
  | error speaker message => exact quiet (drained _ rfl)
  | _ =>
    apply quiet
    simp [finished, Event.toMessage, Content.isCall, Message.plain]

/-! ## Growing texts -/

theorem appendTexts_snd (buffers : List (String × String)) (c : Conversation) :
    (Update.all (buffers.map fun buffer => append (.text buffer.1 buffer.2)) c).2 =
      (List.range' c.messages.size buffers.length).map .appended := by
  induction buffers generalizing c with
  | nil => rfl
  | cons buffer rest ih =>
    have next : (c.push (.text buffer.1 buffer.2)).messages.size = c.messages.size + 1 :=
      Array.size_push _
    simp only [List.map_cons, Update.all, Update.andThen, append, ih, next, List.length_cons,
      List.range'_succ, List.singleton_append]

/-- The messages of growing texts get the next numbers. -/
theorem flush_snd (c : Conversation) :
    (flush c).2 = (List.range' c.messages.size c.flushed.length).map .appended := by
  rw [flush, appendTexts_snd, flushed, List.length_map]

/-- A growing text becomes a message that is announced, and so is all that is behind it. -/
theorem announced_of_flush {c after : Conversation} {changes : List Change} {source : String}
    (last : List Message) (began : c.pendingText source ≠ none)
    (messages : after.messages.toList = c.messages.toList ++ (c.flushed ++ last))
    (told : ∀ change ∈ (flush c).2, change ∈ changes) :
    ∃ seq m, .appended seq ∈ changes ∧ after.messages[seq]? = some m ∧ m.source = source := by
  obtain ⟨body, text⟩ := Option.ne_none_iff_exists'.mp began
  have member : (source, body) ∈ c.streaming.toList := Keyed.mem_entries_of_get? text
  obtain ⟨index, here⟩ := List.mem_iff_getElem?.mp member
  have flushed : c.flushed[index]? = some (.text source body) := by
    rw [Conversation.flushed, List.getElem?_map, here]
    rfl
  obtain ⟨bound, _⟩ := List.getElem?_eq_some_iff.mp flushed
  refine ⟨c.messages.size + index, .text source body, ?_, ?_, rfl⟩
  · apply told
    rw [flush_snd]
    exact List.mem_map_of_mem (List.mem_range'_1.mpr (by omega))
  · rw [← Array.getElem?_toList, messages, ← Array.length_toList, List.getElem?_append_right (by omega),
      Nat.add_sub_cancel_left, List.getElem?_append_left bound, flushed]

theorem messages_apply (e : Event) (c : Conversation) :
    (apply e c).1.messages.toList = c.messages.toList ++ c.finished (some e) := by
  rw [apply_fst]
  exact Log.messages_foldl_enter (c.finished (some e)) c.log

/-- A growing text that an event changes is named, or its source is that of a new message. -/
theorem pendingText_apply (e : Event) (c : Conversation) (source : String)
    (changed : (apply e c).1.pendingText source ≠ c.pendingText source) :
    .streamUpdated source ∈ (apply e c).2 ∨
      ∃ seq m, .appended seq ∈ (apply e c).2 ∧ (apply e c).1.messages[seq]? = some m ∧
        m.source = source := by
  have after : (apply e c).1.pendingText source = (c.streaming.after (some e)).pending source := by
    rw [apply_fst]
    rfl
  rw [after] at changed
  cases e with
  | delta speaker piece =>
    left
    by_cases here : speaker = source
    · simp [apply, here]
    · exact absurd (Streaming.pending_push_of_ne c.streaming here piece) changed
  | text speaker id content usage awaits =>
    right
    by_cases here : speaker = source
    · let text := (c.pendingText speaker).getD content
      refine ⟨c.messages.size, ⟨id, speaker, .text text, usage⟩, ?_, ?_, here⟩
      · cases usage <;> simp [apply, Update.andThen, countTokens, append, recordUsage, finishText]
      · rw [← Array.getElem?_toList, messages_apply, ← Array.length_toList,
          List.getElem?_append_right (Nat.le_refl _), Nat.sub_self]
        rfl
    · exact absurd (Streaming.pending_take_of_ne c.streaming here) changed
  | taskSummary speaker id summary awaits =>
    right
    refine announced_of_flush [_] (Ne.symm changed) (messages_apply _ c) ?_
    exact fun change member => List.mem_append_left _ member
  | error speaker message =>
    right
    refine announced_of_flush [_] (Ne.symm changed) (messages_apply _ c) ?_
    exact fun change member => List.mem_append_left _ member
  | _ => exact absurd rfl changed

theorem announced_dispatch (e : Event) (c : Conversation) :
    Announced c (dispatch e c).1 (dispatch e c).2 := by
  unfold dispatch
  split
  · exact ⟨List.prefix_refl _, fun _ _ changed => absurd rfl changed,
      fun _ changed => absurd rfl changed⟩
  · -- The status is moved last and touches nothing of this.
    refine ⟨⟨_, (messages_apply e c).symm⟩, ?_, ?_⟩
    · intro source seq changed
      exact List.mem_append_left _ (recordsFor_apply e c source seq changed)
    · intro source changed
      rcases pendingText_apply e c source changed with grown | ⟨seq, m, told, here, same⟩
      · exact .inl (List.mem_append_left _ grown)
      · exact .inr ⟨seq, m, List.mem_append_left _ told, here, same⟩

theorem announced_endStream (c : Conversation) :
    Announced c (endStream c).1 (endStream c).2 := by
  have messages : (endStream c).1.messages.toList = c.messages.toList ++ c.flushed := by
    rw [endStream_fst]
    exact messages_accept c none
  refine ⟨⟨_, messages.symm⟩, ?_, ?_⟩
  · intro source seq changed
    have kept : (endStream c).1.register = c.register := by
      rw [endStream_fst]
      exact Log.register_foldl_enter (fun _ member => isCall_of_mem_flushed member) c.log
    exact absurd (congrArg (fun l => CallRegister.recordsFor l source seq) kept) changed
  · intro source changed
    have drained : (endStream c).1.pendingText source = none := by
      rw [endStream_fst]
      rfl
    right
    refine announced_of_flush [] (drained ▸ Ne.symm changed) ?_ ?_
    · rw [messages, List.append_nil]
    · exact fun change member => List.mem_append_left _ member

theorem announced_input (input : Input) (c : Conversation) :
    Announced c (input.update c).1 (input.update c).2 := by
  cases input with
  | frame unit => exact announced_dispatch _ c
  | ended => exact announced_endStream c

/-! ## Silence -/

/-- Only a second delivery is silent. -/
theorem dispatch_snd_eq_nil_iff (e : Event) (c : Conversation) :
    (dispatch e c).2 = [] ↔ c.isDuplicate e = true := by
  have told : (apply e c).2 ≠ [] := by
    cases e <;> simp [apply, Update.andThen, append]
  unfold dispatch
  split
  · next again => simp [again]
  · next fresh =>
    have loud : ((apply e).andThen (moveStatus (c.status.after e)) c).2 ≠ [] :=
      List.append_ne_nil_of_left_ne_nil told _
    simp [fresh, loud]

end Conversation

/-- A piece leaves the growing texts as they are if it is empty and its text has begun. -/
theorem Streaming.push_eq_self_iff (s : Streaming) (source piece : String) :
    s.push source piece = s ↔ piece = "" ∧ s.pending source ≠ none := by
  have grown := s.pending_push_self source piece
  constructor
  · intro same
    rw [same] at grown
    cases begun : s.pending source with
    | none => rw [begun] at grown; contradiction
    | some text =>
      rw [begun, Option.getD_some, Option.some_inj] at grown
      exact ⟨String.append_eq_left_iff.mp grown.symm, Option.some_ne_none text⟩
  · rintro ⟨rfl, begun⟩
    obtain ⟨text, known⟩ := Option.ne_none_iff_exists'.mp begun
    rw [push, known, Option.getD_some, String.append_empty, Keyed.set_of_get? known]

namespace Conversation

/-- The status stays after a piece if someone is thinking already or the run has failed. -/
theorem after_delta_eq_self_iff (status : Status) (source piece : String) :
    status.after (.delta source piece) = status ↔ status = .thinking ∨ status = .error := by
  cases status <;> simp [Status.after]

/-- A conversation is as before after a second delivery, and after an empty piece of a text that has
begun. -/
theorem dispatch_fst_eq_iff (e : Event) (c : Conversation) :
    (dispatch e c).1 = c ↔ c.isDuplicate e = true ∨ ∃ source, e = .delta source "" ∧
      c.pendingText source ≠ none ∧ (c.status = .thinking ∨ c.status = .error) ∧
      (dispatch e c).2 = [.streamUpdated source] := by
  rw [dispatch_fst]
  cases again : c.isDuplicate e with
  | true => simp
  | false =>
    simp only [Bool.false_eq_true, if_false, false_or]
    constructor
    · intro same
      cases whole : e.isDelta with
      | false =>
        -- Any other event brings a message of its own.
        have messages := messages_accept c (some e)
        rw [same] at messages
        rcases c.finished_eq whole with alone | after
        · simp [alone] at messages
        · simp [after] at messages
      | true =>
        cases e with
        | delta source piece =>
          have streaming : c.streaming.push source piece = c.streaming := congrArg streaming same
          have status : c.status.after (.delta source piece) = c.status := congrArg status same
          obtain ⟨rfl, begun⟩ := (c.streaming.push_eq_self_iff source piece).mp streaming
          refine ⟨source, rfl, begun, (after_delta_eq_self_iff _ _ _).mp status, ?_⟩
          simp [dispatch, again, Update.andThen, apply, moveStatus, status, Status.change?]
        | _ => contradiction
    · rintro ⟨source, rfl, begun, settled, -⟩
      have streaming := (c.streaming.push_eq_self_iff source "").mpr ⟨rfl, begun⟩
      have status := (after_delta_eq_self_iff c.status source "").mpr settled
      change { c with
        streaming := c.streaming.push source "", status := c.status.after (.delta source "") } = c
      rw [streaming, status]

/-- The changes of an operation bring an observer from what the conversation was to what it is, and
those of an input name all that has changed by source. An input is silent exactly if it delivers a
message again, and leaves everything as it was exactly then and where an empty piece of a text that
has begun is taken without moving the status, which is announced like any piece. -/
theorem changes_tell (settings : Settings) (operations : List Operation) (operation : Operation)
    (input : Input) (frame : Frame) :
    let c := (run operations (new settings)).1
    let e := Event.ofFrame settings.defaultSource frame
    Mirror.follow? (operation.update c).1.mirror c.mirror (operation.update c).2 =
        some (operation.update c).1.mirror ∧
      Announced c (input.update c).1 (input.update c).2 ∧
      ((ingest frame c).2 = [] ↔ c.knows e = true) ∧
      ((ingest frame c).1 = c ↔ (ingest frame c).2 = [] ∨ ∃ source, e = .delta source "" ∧
        c.pendingText source ≠ none ∧ (c.status = .thinking ∨ c.status = .error) ∧
        (ingest frame c).2 = [.streamUpdated source]) := by
  intro c e
  have rebuilt : c.log.Rebuilt := rebuilt_run settings operations
  have same : c.settings = settings := settings_run operations (new settings)
  have taken : ingest frame c = dispatch e c := by rw [ingest, same]
  refine ⟨follow?_update operation c, announced_input input c, ?_, ?_⟩
  · rw [taken, dispatch_snd_eq_nil_iff, isDuplicate_eq rebuilt]
  · rw [taken, dispatch_fst_eq_iff, dispatch_snd_eq_nil_iff]

/-- A text has begun, and its next piece is empty. -/
def begun : List Operation := [.input (.frame (.delta (some "a") "x"))]

/-- That nothing has changed does not keep an input silent. -/
theorem not_silent_of_unchanged :
    let c := (run begun (new .default)).1
    let empty := Frame.delta (some "a") ""
    ¬((ingest empty c).2 = [] ↔ (ingest empty c).1 = c) := by
  decide +kernel

end Conversation

end Transcript
