import Transcript.Proofs.Conversation.Log

/-! # A log is made again from its messages

No operation leaves anything in the log of a conversation that its messages, taken one by one into
an empty log, would not make again (`Log.Rebuilt`, kept by every step: `rebuilt_update`). So what is
to be known of the log of a reachable conversation need only be shown for an empty log and for one
more message whose id is new (`Log.Rebuilt.invariant`).
-/

namespace Transcript

namespace Log

/-- Whether the log is the one that its own messages make. -/
def Rebuilt (l : Log) : Prop := ofMessages l.messages = l

theorem ofMessages_concat (ms : List Message) (m : Message) :
    ofMessages (ms ++ [m]) = (ofMessages ms).take m := by
  rw [ofMessages, List.foldl_append]
  rfl

theorem take_of_fresh {l : Log} {m : Message} (fresh : l.holds m = false) :
    l.take m = l.enter m := by
  simp only [take, fresh, Bool.false_eq_true, if_false]

theorem rebuilt_empty : empty.Rebuilt := rfl

theorem rebuilt_enter {l : Log} {m : Message} (rebuilt : l.Rebuilt) (fresh : l.holds m = false) :
    (l.enter m).Rebuilt := by
  change ofMessages (l.messages ++ [m]) = l.enter m
  rw [ofMessages_concat, rebuilt, take_of_fresh fresh]

theorem rebuilt_take {l : Log} (rebuilt : l.Rebuilt) (m : Message) : (l.take m).Rebuilt := by
  cases known : l.holds m with
  | true => simpa only [take, known, if_true] using rebuilt
  | false => simpa only [take_of_fresh known] using rebuilt_enter rebuilt known

/-- Messages that were dropped once leave no trace. -/
theorem rebuilt_ofMessages (ms : List Message) : (ofMessages ms).Rebuilt := by
  induction ms using List.reverseRecOn with
  | nil => exact rebuilt_empty
  | append_singleton rest m ih => exact ofMessages_concat rest m ▸ rebuilt_take ih m

/-- Messages with ids that are new and distinct keep a log rebuilt. -/
theorem rebuilt_foldl_enter {l : Log} {ms : List Message} (rebuilt : l.Rebuilt)
    (distinct : (ms.filterMap Message.id).Nodup)
    (fresh : ∀ id ∈ ms.filterMap Message.id, id ∉ l.seen) : (ms.foldl enter l).Rebuilt := by
  induction ms generalizing l with
  | nil => exact rebuilt
  | cons m rest ih =>
    rw [List.foldl_cons]
    cases known : m.id with
    | none =>
      simp only [List.filterMap_cons, known] at distinct fresh
      exact ih (rebuilt_enter rebuilt (by simp [holds, known])) distinct
        (by simpa [enter, known] using fresh)
    | some id =>
      simp only [List.filterMap_cons, known, List.nodup_cons, List.forall_mem_cons] at distinct fresh
      apply ih (rebuilt_enter rebuilt (by simpa [holds, known] using fresh.1)) distinct.2
      intro other member
      have different : other ≠ id := fun same => distinct.1 (same ▸ member)
      simpa [enter, known, different] using fresh.2 other member

/-- What holds of an empty log and stays with every new message holds of every rebuilt log. -/
theorem Rebuilt.invariant {P : Log → Prop} {l : Log} (rebuilt : l.Rebuilt) (initial : P empty)
    (step : ∀ l m, P l → l.holds m = false → P (l.enter m)) : P l := by
  -- A rebuilt log is made by its messages, so the induction is on these and not on a run.
  have made : ∀ ms, P (ofMessages ms) := by
    intro ms
    induction ms using List.reverseRecOn with
    | nil => exact initial
    | append_singleton rest m ih =>
      rw [ofMessages_concat]
      cases known : (ofMessages rest).holds m with
      | true => simpa only [take, known, if_true] using ih
      | false => simpa only [take_of_fresh known] using step _ m ih known
  exact rebuilt ▸ made l.messages

end Log

namespace Conversation

theorem filterMap_id_flushed (c : Conversation) : c.flushed.filterMap Message.id = [] := by
  simp [flushed, Message.text, Message.plain]

/-- Of the messages that an event finishes, the one of the event alone has an id. -/
theorem filterMap_id_finished (c : Conversation) (e? : Option Event) :
    (c.finished e?).filterMap Message.id = (e?.bind Event.messageId).toList := by
  cases e? with
  | none => exact c.filterMap_id_flushed
  | some e =>
    cases e with
    | delta source piece => rfl
    | text source id content usage awaits => cases id <;> rfl
    | taskSummary source id summary awaits =>
      rw [finished, List.filterMap_append, filterMap_id_flushed]
      cases id <;> rfl
    | error source message =>
      rw [finished, List.filterMap_append, filterMap_id_flushed]
      rfl
    | toolCalls source id => cases id <;> rfl
    | toolResults source id => cases id <;> rfl
    | modelTrace source id => cases id <;> rfl
    | memories source id => cases id <;> rfl
    | other source payload => rfl

theorem rebuilt_accept {c : Conversation} {e? : Option Event} (rebuilt : c.log.Rebuilt)
    (fresh : e?.any c.isDuplicate = false) : (c.accept e?).log.Rebuilt := by
  apply Log.rebuilt_foldl_enter rebuilt
  · rw [filterMap_id_finished]
    cases e?.bind Event.messageId <;> simp
  · rw [filterMap_id_finished]
    intro id member
    obtain ⟨e, rfl, known⟩ := Option.bind_eq_some_iff.mp (Option.mem_toList.mp member)
    simpa [isDuplicate, known] using fresh

theorem rebuilt_input {c : Conversation} (rebuilt : c.log.Rebuilt) (input : Input) :
    (input.update c).1.log.Rebuilt := by
  rw [update_fst]
  split
  · exact rebuilt
  · next fresh => exact rebuilt_accept rebuilt (Bool.eq_false_iff.mpr fresh)

/-- The log of a conversation is rebuilt after every operation. -/
theorem rebuilt_update {c : Conversation} (rebuilt : c.log.Rebuilt) (operation : Operation) :
    (operation.update c).1.log.Rebuilt := by
  cases operation with
  | input input => exact rebuilt_input rebuilt input
  | restart again =>
    cases again with
    | reset => exact Log.rebuilt_empty
    | beginRun runId => exact Log.rebuilt_empty
    | load stored =>
      change (load stored c).1.log.Rebuilt
      rw [load_fst]
      exact Log.rebuilt_ofMessages stored.messages

theorem rebuilt_feed {c : Conversation} (rebuilt : c.log.Rebuilt) (inputs : List Input) :
    (feed inputs c).1.log.Rebuilt := by
  induction inputs using List.reverseRecOn with
  | nil => exact rebuilt
  | append_singleton rest last ih =>
    rw [feed_concat]
    exact rebuilt_input ih last

theorem rebuilt_beginning (c : Conversation) (beginning : Beginning) :
    (beginning.conversation c).log.Rebuilt := by
  cases beginning <;> exact Log.rebuilt_empty

theorem rebuilt_run (settings : Settings) (operations : List Operation) :
    (run operations (new settings)).1.log.Rebuilt := by
  have initial : (new settings).log.Rebuilt := Log.rebuilt_empty
  exact run_invariant (P := fun c => c.log.Rebuilt) initial
    (fun _ operation rebuilt => rebuilt_update rebuilt operation) operations

end Conversation

end Transcript
