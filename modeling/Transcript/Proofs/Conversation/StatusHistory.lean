import Transcript.Proofs.Conversation.SecondDelivery

/-! # The status is what the history says

A failure is final, and until there is one the status is the one that was set last: by a piece of
text, by a message that may end a turn, or by the end of a stream that cut a text short
(`setBy?`, `status_feed`). The log tells a failure too, by a message of its own, and nobody is thinking
without a text that grows. So the status, which is moved before an event does anything else, cannot
come to disagree with the messages and the growing texts.
-/

namespace Transcript

namespace Event

def isFailure : Event → Bool
  | .error .. => true
  | _ => false

/-- Whether an event says nothing about the status: a trace, memories or an unknown payload. -/
def isQuiet : Event → Bool
  | .modelTrace .. | .memories .. | .other .. => true
  | _ => false

/-- The status that an event sets while nothing has failed, if it sets one. -/
def status? (e : Event) : Option Status :=
  match e with
  | .delta .. => some .thinking
  | .text .. | .toolCalls .. | .toolResults .. | .taskSummary .. =>
    some (if e.awaitsInput then .awaitingInput else .ready)
  | .modelTrace .. | .memories .. | .error .. | .other .. => none

theorem status?_ne_error (e : Event) : e.status? ≠ some .error := by
  cases e <;> simp only [status?, ne_eq, reduceCtorEq, not_false_eq_true, Option.some_inj] <;>
    split <;> simp

end Event

namespace Conversation

/-- The status that an event sets, or the end of the stream, if it sets one: a message that is in the
log already does not, and the end of the stream only where somebody was thinking. -/
def setBy? (c : Conversation) : Option Event → Option Status
  | none => if c.status = .thinking then some .ready else none
  | some e => if c.knows e then none else e.status?

def statusesSet (c : Conversation) : List Input → List Status
  | [] => []
  | input :: rest =>
    (c.setBy? (input.event? c.settings.defaultSource)).toList ++ statusesSet (input.update c).1 rest

def holdsFailure (c : Conversation) : Prop := ∃ m ∈ c.messages.toList, m.content.kind = .error

theorem statusesSet_concat (c : Conversation) (inputs : List Input) (last : Input) :
    c.statusesSet (inputs ++ [last]) =
      c.statusesSet inputs ++
        ((feed inputs c).1.setBy? (last.event? c.settings.defaultSource)).toList := by
  induction inputs generalizing c with
  | nil => simp [statusesSet, feed, Update.all]
  | cons first rest ih =>
    simp only [List.cons_append, statusesSet, ih, settings_input, List.append_assoc]
    rfl

/-! ## One input -/

/-- A failure is final, and any other event moves the status to what it sets. -/
theorem after_eq (s : Status) (e : Event) :
    s.after e = if s = .error ∨ e.isFailure then .error else e.status?.getD s := by
  cases s <;> cases e <;> rfl

theorem after_of_isQuiet (s : Status) {e : Event} (quiet : e.isQuiet = true) : s.after e = s := by
  cases e with
  | modelTrace source id trace => cases s <;> rfl
  | memories source id entries => cases s <;> rfl
  | other source payload => cases s <;> rfl
  | _ => contradiction

theorem setBy?_ne_error (c : Conversation) (e? : Option Event) : c.setBy? e? ≠ some .error := by
  cases e? with
  | none => by_cases thinking : c.status = .thinking <;> simp [setBy?, thinking]
  | some e => by_cases known : c.knows e <;> simp [setBy?, known, e.status?_ne_error]

theorem afterInput_eq (c : Conversation) {e? : Option Event} (fresh : e?.any c.knows = false) :
    c.status.afterInput e? =
      if c.status = .error ∨ e?.any Event.isFailure then .error
      else (c.setBy? e?).getD c.status := by
  cases e? with
  | none => cases known : c.status <;> simp [Status.afterInput, Status.settled, setBy?, known]
  | some e =>
    have new : c.knows e = false := fresh
    simp only [Status.afterInput, after_eq, Option.any_some, setBy?, new, Bool.false_eq_true, if_false]

/-- An event finishes a failure exactly if it is one; whatever else it finishes is a text. -/
theorem finished_failure_iff (c : Conversation) (e? : Option Event) :
    (∃ m ∈ c.finished e?, m.content.kind = .error) ↔ e?.any Event.isFailure = true := by
  have texts : ∀ m ∈ c.flushed, m.content.kind ≠ .error := by
    intro m member
    obtain ⟨buffer, -, rfl⟩ := List.mem_map.mp member
    exact fun same => nomatch same
  have drained : ∀ last : Message, (∃ m ∈ c.flushed ++ [last], m.content.kind = .error) ↔
      last.content.kind = .error := by
    intro last
    simp only [List.mem_append, List.mem_singleton]
    constructor
    · rintro ⟨m, member | rfl, failure⟩
      · exact absurd failure (texts m member)
      · exact failure
    · exact fun failure => ⟨last, .inr rfl, failure⟩
  cases e? with
  | none => simpa [finished] using texts
  | some e =>
    cases e with
    | taskSummary source id summary awaits =>
      exact (drained _).trans (by simp [Event.toMessage, Content.kind, Event.isFailure])
    | error source message =>
      exact (drained _).trans (by simp [Message.plain, Content.kind, Event.toMessage, Event.isFailure])
    | _ => simp [finished, Event.toMessage, Message.plain, Content.kind, Event.isFailure]

theorem holdsFailure_accept (c : Conversation) (e? : Option Event) :
    (c.accept e?).holdsFailure ↔ c.holdsFailure ∨ e?.any Event.isFailure = true := by
  simp only [holdsFailure, messages_accept, List.mem_append, or_and_right, exists_or,
    finished_failure_iff]

/-- What begins to be thought has a text that grows, and what closes a text is thought no more. -/
theorem streaming_of_thinking_accept {c : Conversation}
    (grows : c.status = .thinking → c.streaming.isEmpty = false) (e? : Option Event)
    (thinking : (c.accept e?).status = .thinking) : (c.accept e?).streaming.isEmpty = false := by
  change c.status.afterInput e? = .thinking at thinking
  change (c.streaming.after e?).isEmpty = false
  cases e? with
  | none => exact absurd thinking (Status.settled_ne_thinking c.status)
  | some e =>
    rw [Status.afterInput, after_eq] at thinking
    split at thinking
    · contradiction
    · cases e with
      | delta source piece =>
        have spoken := c.streaming.pending_push_self source piece
        rw [Bool.eq_false_iff]
        intro silent
        have empty : (c.streaming.push source piece).buffers.entries = [] := List.isEmpty_iff.mp silent
        rw [Streaming.pending, Keyed.get?, empty] at spoken
        contradiction
      | error source message => next running => exact absurd (.inr rfl) running
      | modelTrace source id trace => exact grows thinking
      | memories source id entries => exact grows thinking
      | other source payload => exact grows thinking
      | _ =>
        rw [Event.status?, Option.getD_some] at thinking
        split at thinking <;> contradiction

theorem any_knows {c : Conversation} (rebuilt : c.log.Rebuilt) (e? : Option Event) :
    e?.any c.knows = e?.any c.isDuplicate := by
  cases e? with
  | none => rfl
  | some e => exact (isDuplicate_eq rebuilt e).symm

/-! ## A whole history -/

def eventsOf (c : Conversation) (inputs : List Input) : List Event :=
  inputs.filterMap (Input.event? c.settings.defaultSource)

theorem eventsOf_concat (c : Conversation) (inputs : List Input) (last : Input) :
    c.eventsOf (inputs ++ [last]) =
      c.eventsOf inputs ++ (last.event? c.settings.defaultSource).toList := by
  rw [eventsOf, List.filterMap_append]
  rfl

/-- What the inputs that a conversation was fed say of its status. -/
structure StatusTold (start : Conversation) (inputs : List Input) (c : Conversation) : Prop where
  failed : c.status = .error ↔ (start.eventsOf inputs).any Event.isFailure = true
  running : c.status ≠ .error → c.status = (start.statusesSet inputs).getLastD .ready
  logged : c.holdsFailure ↔ (start.eventsOf inputs).any Event.isFailure = true
  grows : c.status = .thinking → c.streaming.isEmpty = false

namespace StatusTold

variable {start : Conversation} {inputs : List Input}

/-- One more input, be it taken or dropped, moves the status as told. -/
theorem input (told : StatusTold start inputs (feed inputs start).1)
    (rebuilt : (feed inputs start).1.log.Rebuilt) (last : Input) :
    StatusTold start (inputs ++ [last]) (feed (inputs ++ [last]) start).1 := by
  have sets := statusesSet_concat start inputs last
  have events := eventsOf_concat start inputs last
  rw [feed_concat, update_fst, settings_feed, ← any_knows rebuilt]
  generalize (feed inputs start).1 = c at told sets
  generalize last.event? start.settings.defaultSource = e? at sets events
  have failing : (start.eventsOf (inputs ++ [last])).any Event.isFailure = true ↔
      (start.eventsOf inputs).any Event.isFailure = true ∨ e?.any Event.isFailure = true := by
    rw [events, List.any_append, Bool.or_eq_true]
    cases e? <;> simp
  split
  · next again =>
    -- A message that is there already is no failure and sets nothing.
    obtain ⟨e, rfl, known⟩ := (Option.any_eq_true _ _).mp again
    have harmless : e.isFailure = false := by
      cases e with
      | error source message => contradiction
      | _ => rfl
    rw [Option.any_some, harmless, or_iff_left Bool.false_ne_true] at failing
    rw [setBy?, known, if_pos rfl, Option.toList_none, List.append_nil] at sets
    exact ⟨told.failed.trans failing.symm, sets ▸ told.running, told.logged.trans failing.symm,
      told.grows⟩
  · next fresh =>
    have moved : (c.accept e?).status = if c.status = .error ∨ e?.any Event.isFailure then .error
        else (c.setBy? e?).getD c.status := afterInput_eq c (Bool.eq_false_iff.mpr fresh)
    refine ⟨?_, ?_, ?_, streaming_of_thinking_accept told.grows e?⟩
    · rw [moved, failing, ← told.failed]
      split
      · next final => exact iff_of_true rfl final
      · next runs =>
        refine iff_of_false ?_ runs
        cases set : c.setBy? e? with
        | none => exact fun final => runs (.inl final)
        | some s => exact fun final => setBy?_ne_error c e? (final ▸ set)
    · intro runs
      rw [moved] at runs ⊢
      split
      · next final => exact absurd (if_pos final) runs
      · next still =>
        rw [sets]
        cases set : c.setBy? e? with
        | none => simpa [set] using told.running (fun final => still (.inl final))
        | some s => simp
    · rw [holdsFailure_accept, told.logged, failing]

end StatusTold

theorem statusTold_feed (c : Conversation) (beginning : Beginning) (inputs : List Input) :
    StatusTold (beginning.conversation c) inputs (feed inputs (beginning.conversation c)).1 := by
  induction inputs using List.reverseRecOn with
  | nil =>
    have silent : ¬ (([] : List Event).any Event.isFailure = true) := Bool.false_ne_true
    have ready : Status.ready ≠ .error ∧ Status.ready ≠ .thinking := by decide
    have nothing : ¬ ∃ m ∈ ([] : List Message), m.content.kind = .error := by simp
    cases beginning <;>
      exact ⟨iff_of_false ready.1 silent, fun _ => rfl, iff_of_false nothing silent,
        fun thinking => absurd thinking ready.2⟩
  | append_singleton rest last ih =>
    exact ih.input (rebuilt_feed (rebuilt_beginning c beginning) rest) last

/-- The status of a conversation that has begun anew is an error exactly if an event was a failure,
which the log then tells; while it is thinking, a text grows; and if it is no error it is the one that
was set last. What is delivered again and what is quiet leaves it as it is. -/
theorem status_eq_last_set (c : Conversation) (beginning : Beginning) (inputs : List Input) :
    let start := beginning.conversation c
    let now := (feed inputs start).1
    (now.status = .error ↔ ∃ e ∈ start.eventsOf inputs, e.isFailure) ∧
      ((∃ e ∈ start.eventsOf inputs, e.isFailure) ↔
        ∃ m ∈ now.messages.toList, m.content.kind = .error) ∧
      (now.status = .thinking → now.streaming.toList ≠ []) ∧
      (now.status ≠ .error → now.status = (start.statusesSet inputs).getLastD .ready) ∧
      ∀ frame, let e := Event.ofFrame c.settings.defaultSource frame
        now.knows e ∨ e.isQuiet → (ingest frame now).1.status = now.status := by
  intro start now
  have told : StatusTold start inputs now := statusTold_feed c beginning inputs
  have rebuilt : now.log.Rebuilt := rebuilt_feed (rebuilt_beginning c beginning) inputs
  have settings : now.settings = c.settings := by
    rw [settings_feed, settings_beginning]
  rw [← List.any_eq_true]
  refine ⟨told.failed, told.logged.symm, ?_, told.running, ?_⟩
  · intro thinking silent
    have grows := told.grows thinking
    rw [Streaming.isEmpty, silent] at grows
    contradiction
  · intro frame e aside
    have taken : (ingest frame now).1 = if now.knows e then now else now.accept (some e) := by
      rw [ingest, dispatch_fst, isDuplicate_eq rebuilt, settings]
    rw [taken]
    split
    · rfl
    · next fresh =>
      exact after_of_isQuiet now.status (aside.resolve_left fresh)

/-- A text that waits for an answer, its second delivery while another text grows, and a trace. -/
def questioned : List Input :=
  [.frame (.envelope (.obj [("awaiting_input", .bool true), ("id", .str "m1"), ("source", .str "a"),
      ("content", .str "Which one?")])),
    .frame (.delta (some "b") "The fi"),
    .frame (.envelope (.obj [("id", .str "m1"), ("source", .str "a"), ("content", .str "Which one?")])),
    .frame (.envelope (.obj [("source", .str "b"), ("content", .str "\x7b\"type\":\"LLMCall\"")]))]

/-- The first of these messages once more. -/
def askedAgain : Frame := .envelope (.obj [("id", .str "m1"), ("content", .str "Which one?")])

theorem status_eq_last_set_questioned :
    let now := (feed questioned (Beginning.new.conversation (new .default))).1
    now.status = .thinking ∧ now.status ≠ .error ∧ now.streaming.toList ≠ [] ∧
      now.knows (.ofFrame (new .default).settings.defaultSource askedAgain) ∧
      (ingest askedAgain now).1.status = now.status := by
  intro now
  have thinking : now.status = .thinking := by decide +kernel
  have known : now.knows (.ofFrame (new .default).settings.defaultSource askedAgain) := by
    decide +kernel
  obtain ⟨-, -, grows, -, aside⟩ := status_eq_last_set (new .default) .new questioned
  refine ⟨thinking, ?_, grows thinking, known, aside askedAgain (.inl known)⟩
  rw [thinking]
  decide

end Conversation

end Transcript
