import Transcript.Proofs.Conversation.Operation

/-! # The changes keep an observer up to date

An observer that holds the number of messages, the status and the totals, and takes over what the
changes say, holds what the conversation holds after every operation. A message is only accepted under
the next number, so none is left out or made known twice. Updates that are faithful to the observer
stay so one after another (`Faithful.andThen`), and every operation is made of such updates.
-/

namespace Transcript

/-- What an observer holds of a conversation. -/
structure Mirror where
  /-- The number of messages. -/
  count : Nat
  status : Status
  tokens : TokenTotals
deriving DecidableEq, Repr

/-- Whether a change is of no concern to this observer: growing texts and calls. -/
def Change.isAside : Change → Bool
  | .streamUpdated _ | .toolCallsUpdated .. => true
  | _ => false

namespace Mirror

/-- What the observer holds after a change, or nothing if the message is not the next one. Of a stored
run the observer reads anew what there is `now`. -/
def see? (now m : Mirror) : Change → Option Mirror
  | .appended seq => if seq = m.count then some { m with count := m.count + 1 } else none
  | .tokensUpdated tokens => some { m with tokens }
  | .statusChanged status => some { m with status }
  | .reset => some ⟨0, .ready, .zero⟩
  | .loaded _ => some now
  | .streamUpdated _ | .toolCallsUpdated .. => some m

/-- What the observer holds after changes, in order. -/
def follow? (now m : Mirror) (changes : List Change) : Option Mirror := changes.foldlM (see? now) m

theorem follow?_append (now m : Mirror) (before after : List Change) :
    follow? now m (before ++ after) =
      (follow? now m before).bind fun next => follow? now next after := by
  rw [follow?, List.foldlM_append]
  rfl

theorem follow?_of_aside {changes : List Change} (aside : ∀ change ∈ changes, change.isAside)
    {now m : Mirror} : follow? now m changes = some m := by
  induction changes with
  | nil => rfl
  | cons change rest ih =>
    obtain ⟨first, later⟩ := List.forall_mem_cons.mp aside
    have unmoved : see? now m change = some m := by cases change <;> first | contradiction | rfl
    rw [follow?, List.foldlM_cons, unmoved]
    exact ih later

end Mirror

namespace Conversation

/-- What an observer of the conversation has to hold. -/
def mirror (c : Conversation) : Mirror := ⟨c.messages.size, c.status, c.tokens⟩

/-- Whether an update of any conversation tells an observer all that it has to hold. -/
def Faithful (update : Update) : Prop :=
  ∀ c now, Mirror.follow? now c.mirror (update c).2 = some (update c).1.mirror

namespace Faithful

theorem andThen {first second : Update} (one : Faithful first) (two : Faithful second) :
    Faithful (first.andThen second) := by
  intro c now
  change Mirror.follow? now c.mirror ((first c).2 ++ (second (first c).1).2) = _
  rw [Mirror.follow?_append, one, Option.bind_some, two]
  rfl

theorem all {updates : List Update} (each : ∀ update ∈ updates, Faithful update) :
    Faithful (Update.all updates) := by
  induction updates with
  | nil => exact fun _ _ => rfl
  | cons update rest ih =>
    obtain ⟨first, later⟩ := List.forall_mem_cons.mp each
    exact first.andThen (ih later)

theorem append (m : Message) : Faithful (append m) := by
  intro c now
  simp [Conversation.append, push, mirror, Mirror.follow?, Mirror.see?]

/-- The next message keeps the observer up to date whatever is told aside, before or after it. -/
theorem append_aside (m : Message) (c : Conversation) (before after : List Change)
    (early : ∀ change ∈ before, change.isAside) (late : ∀ change ∈ after, change.isAside)
    (now : Mirror) :
    Mirror.follow? now c.mirror (before ++ [.appended c.messages.size] ++ after) =
      some (c.push m).mirror := by
  have next : Mirror.follow? now c.mirror [.appended c.messages.size] = some (c.push m).mirror :=
    append m c now
  rw [Mirror.follow?_append, Mirror.follow?_append, Mirror.follow?_of_aside early, Option.bind_some,
    next, Option.bind_some, Mirror.follow?_of_aside late]

theorem flush : Faithful flush := by
  intro c now
  have texts : Faithful (Update.all (c.streaming.toList.map fun buffer =>
      Conversation.append (.text buffer.1 buffer.2))) := by
    apply all
    intro update member
    obtain ⟨buffer, -, rfl⟩ := List.mem_map.mp member
    exact append _
  exact texts { c with streaming := ∅ } now

theorem countTokens (usage : Option Usage) : Faithful (countTokens usage) := by
  intro c now
  cases usage <;> rfl

theorem moveStatus (status : Status) : Faithful (moveStatus status) := by
  intro c now
  by_cases same : status = c.status
  · simp [Conversation.moveStatus, Status.change?, same, mirror, Mirror.follow?]
  · simp [Conversation.moveStatus, Status.change?, same, mirror, Mirror.follow?, Mirror.see?]

theorem apply (e : Event) : Faithful (apply e) := by
  intro c now
  cases e with
  | delta source piece => rfl
  | text source id content usage awaits =>
    let text := (c.streaming.pending source).getD content
    exact (countTokens usage).andThen (append ⟨id, source, .text text, usage⟩)
      { c with streaming := (c.streaming.take source).2 } now
  | toolCalls source id calls usage awaits =>
    exact append_aside ⟨id, source, .toolCalls calls, usage⟩ c [] _ (by simp)
      (by split <;> simp [Change.isAside]) now
  | toolResults source id results awaits =>
    obtain ⟨updated, aside, told⟩ : ∃ updated : List Change, (∀ change ∈ updated, change.isAside) ∧
        (Conversation.apply (.toolResults source id results awaits) c).2 =
          updated ++ [.appended c.messages.size] ++ [] := by
      refine ⟨_, ?_, (List.append_nil _).symm⟩
      split
      · split <;> simp [Change.isAside]
      · simp
    rw [told]
    exact append_aside ⟨id, source, .toolResults results, none⟩ c updated [] aside (by simp) now
  | taskSummary source id summary awaits => exact flush.andThen (append _) c now
  | error source message => exact flush.andThen (append _) c now
  | modelTrace source id trace => exact append _ c now
  | memories source id entries => exact append _ c now
  | other source payload => exact append _ c now

theorem dispatch (e : Event) : Faithful (dispatch e) := by
  intro c now
  unfold Conversation.dispatch
  split
  · rfl
  · exact (apply e).andThen (moveStatus (c.status.after e)) c now

theorem input (input : Input) : Faithful input.update := by
  intro c now
  cases input with
  | frame unit => exact dispatch (.ofFrame c.settings.defaultSource unit) c now
  | ended => exact flush.andThen (moveStatus c.status.settled) c now

end Faithful

/-- An observer that held what the conversation was holds what it is after an operation. -/
theorem follow?_update (operation : Operation) (c : Conversation) :
    Mirror.follow? (operation.update c).1.mirror c.mirror (operation.update c).2 =
      some (operation.update c).1.mirror := by
  cases operation with
  | input x => exact Faithful.input x c _
  | restart again => cases again <;> rfl

end Conversation

end Transcript
