import Transcript.Proofs.FirstBy
import Transcript.Proofs.Conversation.Reopening

/-! # Second deliveries are dropped

The ids that a conversation has seen are those of its messages, each of which is there once
(`Log.Rebuilt.seen`, `Log.Rebuilt.nodup_ids`). So a frame is dropped exactly if the log has a message
with its id; every other frame that is no piece of a growing text ends with its own message. Of a
stored run the messages stay that are the first with their id (`messages_ofMessages`).
-/

namespace Transcript

namespace Log

variable {l : Log}

/-- What has been seen is what the messages say, the latest one first. -/
theorem Rebuilt.seen (rebuilt : l.Rebuilt) :
    l.seen = (l.messages.filterMap Message.id).reverse := by
  apply rebuilt.invariant (P := fun l => l.seen = (l.messages.filterMap Message.id).reverse) rfl
  intro l m same _
  change m.id.toList ++ l.seen = ((l.messages ++ [m]).filterMap Message.id).reverse
  rw [List.filterMap_append, List.reverse_append, same]
  cases known : m.id <;> simp [known]

theorem Rebuilt.mem_seen (rebuilt : l.Rebuilt) (id : String) :
    id ∈ l.seen ↔ id ∈ l.messages.filterMap Message.id := by
  rw [rebuilt.seen, List.mem_reverse]

/-- A log of messages keeps the first one of every id. -/
theorem messages_ofMessages (ms : List Message) :
    (ofMessages ms).messages = firstBy Message.id ms := by
  induction ms using List.reverseRecOn with
  | nil => rfl
  | append_singleton rest m ih =>
    have known : (ofMessages rest).holds m = repeats Message.id rest m := by
      have seen : ∀ id, id ∈ (ofMessages rest).seen ↔ id ∈ rest.filterMap Message.id := by
        intro id
        rw [(rebuilt_ofMessages rest).mem_seen, ih, mem_filterMap_firstBy]
      rw [holds, repeats]
      cases m.id with
      | none => rfl
      | some id => simp [seen id]
    rw [ofMessages_concat, firstBy_concat, take, known]
    split
    · exact ih
    · rw [← ih]
      rfl

theorem Rebuilt.nodup_ids (rebuilt : l.Rebuilt) : (l.messages.filterMap Message.id).Nodup := by
  have first : l.messages = firstBy Message.id l.messages := by
    rw [← messages_ofMessages]
    exact congrArg messages rebuilt.symm
  rw [first]
  exact nodup_firstBy Message.id l.messages

end Log

namespace Conversation

def ids (c : Conversation) : List String := c.messages.toList.filterMap Message.id

/-- Whether a message with the id of the event is in the log. -/
def knows (c : Conversation) (e : Event) : Bool := e.messageId.any fun id => id ∈ c.ids

/-- The message that an event makes final: its own, but for a text that has grown before. -/
def messageFor (c : Conversation) (e : Event) : Message :=
  match e with
  | .text source id content usage _ =>
    ⟨id, source, .text ((c.pendingText source).getD content), usage⟩
  | e => e.toMessage

theorem isDuplicate_eq {c : Conversation} (rebuilt : c.log.Rebuilt) (e : Event) :
    c.isDuplicate e = c.knows e := by
  have seen : ∀ id, id ∈ c.seen ↔ id ∈ c.ids := rebuilt.mem_seen
  rw [isDuplicate, knows]
  cases e.messageId with
  | none => rfl
  | some id => simp [seen id]

theorem id_messageFor (c : Conversation) (e : Event) : (c.messageFor e).id = e.messageId := by
  cases e <;> rfl

/-- The message of an event comes last; in front of it are growing texts at most. -/
theorem finished_eq (c : Conversation) {e : Event} (whole : e.isDelta = false) :
    c.finished (some e) = [c.messageFor e] ∨
      c.finished (some e) = c.flushed ++ [c.messageFor e] := by
  cases e with
  | delta source piece => contradiction
  | taskSummary source id summary awaits => exact .inr rfl
  | error source message => exact .inr rfl
  | _ => exact .inl rfl

theorem ingest_of_isDuplicate {c : Conversation} {frame : Frame}
    (again : c.isDuplicate (.ofFrame c.settings.defaultSource frame) = true) :
    ingest frame c = (c, []) := by
  simp only [ingest, dispatch, again, if_true]

/-- Ids are never repeated in a reachable conversation, what has been seen is what the log holds, a
frame is dropped with all its effects if its id is held, and else its message comes last under that
id. A stored run is loaded without the messages that repeat an id. -/
theorem ids_unique (settings : Settings) (operations : List Operation) (frame : Frame)
    (stored : Run) :
    let c := (run operations (new settings)).1
    let e := Event.ofFrame settings.defaultSource frame
    c.ids.Nodup ∧ (∀ id, id ∈ c.seen ↔ id ∈ c.ids) ∧
      (c.knows e = true → ingest frame c = (c, [])) ∧
      (c.knows e = false → e.isDelta = false →
        ∃ texts, (ingest frame c).1.messages.toList =
            c.messages.toList ++ texts ++ [c.messageFor e] ∧
          (texts = [] ∨ texts = c.flushed) ∧ (c.messageFor e).id = e.messageId) ∧
      (load stored c).1.messages.toList = firstBy Message.id stored.messages := by
  intro c e
  have rebuilt : c.log.Rebuilt := rebuilt_run settings operations
  have same : c.settings = settings := settings_run operations (new settings)
  have meant : Event.ofFrame c.settings.defaultSource frame = e := by rw [same]
  have known : c.isDuplicate e = c.knows e := isDuplicate_eq rebuilt e
  refine ⟨rebuilt.nodup_ids, rebuilt.mem_seen, ?_, ?_, ?_⟩
  · intro again
    apply ingest_of_isDuplicate
    rw [meant, known, again]
  · intro fresh whole
    have taken : (ingest frame c).1 = c.accept (some e) := by
      rw [ingest, meant, dispatch_fst, known, fresh, if_neg Bool.false_ne_true]
    rw [taken, messages_accept]
    rcases c.finished_eq whole with alone | after
    · exact ⟨[], by rw [alone, List.append_nil], .inl rfl, c.id_messageFor e⟩
    · exact ⟨c.flushed, by rw [after, List.append_assoc], .inr rfl, c.id_messageFor e⟩
  · rw [load_fst]
    exact Log.messages_ofMessages stored.messages

/-- The first message of `cutShort` once more, while a text is growing. -/
def deliveredAgain : Frame :=
  .envelope (.obj [("id", .str "m1"), ("content", .str "again")])

/-- A summary with an id of its own. -/
def summedUp : Frame :=
  .envelope (.obj [("id", .str "m2"), ("source", .str "team"),
    ("task_result", .obj [("stop_reason", .str "done")])])

theorem ids_unique_cutShort :
    let c := (run cutShort (new .default)).1
    let e := Event.ofFrame Settings.default.defaultSource summedUp
    c.ids = ["m1"] ∧ ingest deliveredAgain c = (c, []) ∧ e.messageId = some "m2" ∧
      ∃ texts, (ingest summedUp c).1.messages.toList =
          c.messages.toList ++ texts ++ [c.messageFor e] ∧
        (texts = [] ∨ texts = c.flushed) ∧ (c.messageFor e).id = e.messageId := by
  have dropped := ids_unique .default cutShort deliveredAgain (.start "" "" "" .epoch)
  have taken := ids_unique .default cutShort summedUp (.start "" "" "" .epoch)
  refine ⟨by decide +kernel, dropped.2.2.1 (by decide +kernel), by decide +kernel, ?_⟩
  exact taken.2.2.2.1 (by decide +kernel) (by decide +kernel)

end Conversation

end Transcript
