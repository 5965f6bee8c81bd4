import Transcript.Proofs.Conversation.SecondDelivery
import Transcript.Proofs.Storage.StoredEnvelopes
import Transcript.Proofs.Stream.Source
import Transcript.Proofs.Viewer.Idle

/-! # A stored run and a log of the same envelopes

Envelopes can be kept as the messages of a stored run, which is opened, or one by one in a log, which
is followed. Both ways the same envelopes stay and mean the same, but for the source of those that name
none: in a stored run that is always `Message.storedSource`, in a log it is the default source. So
the two conversations are the same exactly if the default source is that one, or every envelope that
stays names its source (`Stage.opened_eq_followed_iff`).
-/

namespace Transcript

/-- The message that an envelope stands for. -/
def Envelope.message (defaultSource : String) (fields : List (String × Json)) : Message :=
  (Event.ofValue defaultSource (.obj fields)).toMessage

namespace Envelope

variable (defaultSource other : String) (fields : List (String × Json))

theorem message_eq : message defaultSource fields = (message other fields).withSource
    ((textField? "source" fields).getD defaultSource) := by
  rw [message, Event.ofValue_obj defaultSource other, Event.toMessage_withSource, message]

/-- An envelope stands for the same message where the default source is the same, or is not asked
for. -/
theorem message_eq_iff : message defaultSource fields = message other fields ↔
    defaultSource = other ∨ (textField? "source" fields).isSome = true := by
  have source : ∀ d, (message d fields).source = (textField? "source" fields).getD d := by
    intro d
    rw [message_eq d d]
    rfl
  constructor
  · intro same
    have sources := congrArg Message.source same
    rw [source, source] at sources
    cases named : textField? "source" fields with
    | none =>
      rw [named] at sources
      exact .inl sources
    | some name => exact .inr rfl
  · rintro (rfl | named)
    · rfl
    · obtain ⟨name, named⟩ := Option.isSome_iff_exists.mp named
      rw [message_eq defaultSource other, message_eq other other, named]
      rfl

theorem id_message : (message defaultSource fields).id = (message other fields).id := by
  rw [message_eq defaultSource other]
  rfl

end Envelope

namespace Log

open Envelope (message)

/-- The sources do not matter to the ids and the totals. -/
theorem take_withSource {l l' : Log} (seen : l.seen = l'.seen) (tokens : l.tokens = l'.tokens)
    (m : Message) (source : String) :
    (l.take (m.withSource source)).seen = (l'.take m).seen ∧
      (l.take (m.withSource source)).tokens = (l'.take m).tokens := by
  have holds : l.holds (m.withSource source) = l'.holds m := by
    rw [Log.holds, Log.holds, seen]
    rfl
  rw [take, take, holds]
  split
  · exact ⟨seen, tokens⟩
  · exact ⟨congrArg (m.id.toList ++ ·) seen, congrArg (TokenTotals.enter · m) tokens⟩

variable (defaultSource other : String) (envelopes : List (List (String × Json)))

theorem tokens_ofMessages_message :
    (ofMessages (envelopes.map (message defaultSource))).tokens =
      (ofMessages (envelopes.map (message other))).tokens := by
  have same : (ofMessages (envelopes.map (message defaultSource))).seen =
        (ofMessages (envelopes.map (message other))).seen ∧
      (ofMessages (envelopes.map (message defaultSource))).tokens =
        (ofMessages (envelopes.map (message other))).tokens := by
    induction envelopes using List.reverseRecOn with
    | nil => exact ⟨rfl, rfl⟩
    | append_singleton rest fields ih =>
      rw [List.map_append, List.map_append, List.map_singleton, List.map_singleton, ofMessages_concat,
        ofMessages_concat, Envelope.message_eq defaultSource other]
      exact take_withSource ih.1 ih.2 _ _
  exact same.2

/-- Of the envelopes with an id the first one stays, whatever the default source. -/
theorem messages_ofMessages_message :
    (ofMessages (envelopes.map (message defaultSource))).messages =
      (firstBy (fun fields => (message other fields).id) envelopes).map (message defaultSource) := by
  rw [messages_ofMessages, firstBy_map]
  simp only [Envelope.id_message defaultSource other]

end Log

namespace Conversation

theorem log_load (run : Run) (c : Conversation) :
    (load run c).1.log = .ofMessages run.messages := by
  rw [load_fst]
  rfl

/-- A run without pieces of texts makes the log of its messages. -/
theorem log_afterRun (c : Conversation) (runId : String) {frames : List Frame}
    (whole : ∀ frame ∈ frames, (Event.ofFrame c.settings.defaultSource frame).isDelta = false) :
    (c.afterRun runId frames).log = .ofMessages (frames.map fun frame =>
      (Event.ofFrame c.settings.defaultSource frame).toMessage) := by
  obtain ⟨status, followed⟩ := feed_frames frames (c := (beginRun runId c).1) rfl whole
  rw [afterRun, endStream_fst, follow, followed]
  rfl

/-- Conversations with the same messages have the same records, if these are made from the messages. -/
theorem recordsFor_of_messages {c other : Conversation} (rebuilt : c.log.Rebuilt)
    (rebuilt' : other.log.Rebuilt) (same : c.messages = other.messages) (asker : String)
    (seq : Nat) : c.recordsFor asker seq = other.recordsFor asker seq := by
  have logs : c.log = other.log := by
    rw [← rebuilt, ← rebuilt']
    exact congrArg (fun messages : Array Message => Log.ofMessages messages.toList) same
  exact congrArg (fun log : Log => log.register.recordsFor asker seq) logs

section Envelopes

open Envelope (message textField?)

variable {c other : Conversation} {source source' : String}
  {envelopes : List (List (String × Json))}

theorem messages_of_envelopes (log : c.log = .ofMessages (envelopes.map (message source)))
    (key : String) : c.messages.toList =
      (firstBy (fun fields => (message key fields).id) envelopes).map (message source) :=
  (congrArg Log.messages log).trans (Log.messages_ofMessages_message source key envelopes)

theorem tokens_of_envelopes (log : c.log = .ofMessages (envelopes.map (message source)))
    (log' : other.log = .ofMessages (envelopes.map (message source'))) : c.tokens = other.tokens :=
  (congrArg Log.tokens log).trans
    ((Log.tokens_ofMessages_message source source' envelopes).trans (congrArg Log.tokens log').symm)

/-- Two readings of the same envelopes are the same messages exactly if they have the same default
source, or no envelope that stays needs it. -/
theorem messages_eq_iff_of_envelopes (log : c.log = .ofMessages (envelopes.map (message source)))
    (log' : other.log = .ofMessages (envelopes.map (message source'))) :
    c.messages = other.messages ↔ source' = source ∨
      ∀ fields ∈ firstBy (fun fields => (message source' fields).id) envelopes,
        (textField? "source" fields).isSome = true := by
  rw [← Array.toList_inj, messages_of_envelopes log source', messages_of_envelopes log' source',
    List.map_inj_left]
  simp only [Envelope.message_eq_iff]
  constructor
  · intro each
    rcases eq_or_ne source' source with same | different
    · exact .inl same
    · exact .inr fun fields member => (each fields member).resolve_left different.symm
  · rintro (same | named) fields member
    · exact .inl same.symm
    · exact .inr (named fields member)

end Envelopes

end Conversation

namespace Stage

open Conversation

variable {s t : Stage} {d : RunDirectory} {runId : String} {envelopes : List (List (String × Json))}

/-- An opened run of envelopes has the log of their messages from the stored source. -/
theorem log_openRun_of_stores (idle : s.Idle d) (stores : d.Stores s.now runId envelopes)
    (foreign : ∀ fields ∈ envelopes, Message.isForeign fields = true) :
    let after := s.carryOut false (.openRun runId)
    after.2 = .outcome (some .opened) ∧ after.1.viewer.conversation.log =
      .ofMessages (envelopes.map (Envelope.message Message.storedSource)) := by
  obtain ⟨run, fetched, messages⟩ := RunDirectory.fetchRun_of_stores stores foreign
  obtain ⟨-, opened, shown⟩ := openRun_of_idle idle fetched
  refine ⟨opened, ?_⟩
  rw [shown, Conversation.log_load, messages]
  rfl

/-- A log of envelopes that was followed has the log of their messages from the default source. -/
theorem log_startRun_of_logs (idle : s.Idle d) (logs : d.Logs runId envelopes)
    (whole : ∀ fields ∈ envelopes,
      (Event.ofValue s.viewer.conversation.settings.defaultSource (.obj fields)).isDelta = false) :
    let after := s.carryOut false (.startRun runId)
    after.2 = .outcome (some .started) ∧ after.1.viewer.conversation.log =
      .ofMessages (envelopes.map
        (Envelope.message s.viewer.conversation.settings.defaultSource)) := by
  obtain ⟨bytes, lines, file, holds, parsed⟩ := logs
  obtain ⟨-, started, shown⟩ := startRun_of_log idle file holds
  refine ⟨started, ?_⟩
  have each : ∀ frame ∈ envelopes.map fun fields => Frame.envelope (.obj fields),
      (Event.ofFrame s.viewer.conversation.settings.defaultSource frame).isDelta = false :=
    List.forall_mem_map.mpr whole
  rw [shown, Frame.map_ofText_of_parse parsed, Conversation.log_afterRun _ _ each, List.map_map]
  rfl

/-- A stored run of envelopes that is opened and a log of them that is followed keep the same of them
and count the same tokens, and the conversations are the same exactly if the default source is the
stored one or no envelope that stays needs it. -/
theorem opened_eq_followed_iff (idle : s.Idle d) (idle' : t.Idle d)
    (same : t.viewer.conversation.settings = s.viewer.conversation.settings)
    (stores : d.Stores s.now runId envelopes) (logs : d.Logs runId envelopes)
    (foreign : ∀ fields ∈ envelopes, Message.isForeign fields = true)
    (whole : ∀ fields ∈ envelopes,
      (Event.ofValue s.viewer.conversation.settings.defaultSource (.obj fields)).isDelta = false) :
    let opening := s.carryOut false (.openRun runId)
    let starting := t.carryOut false (.startRun runId)
    let opened := opening.1.viewer.conversation
    let followed := starting.1.viewer.conversation
    let source := s.viewer.conversation.settings.defaultSource
    let kept := firstBy (fun fields => (Envelope.message source fields).id) envelopes
    opening.2 = .outcome (some .opened) ∧ starting.2 = .outcome (some .started) ∧
      opened.messages.toList = kept.map (Envelope.message Message.storedSource) ∧
      followed.messages.toList = kept.map (Envelope.message source) ∧
      opened.tokens = followed.tokens ∧
      (opened.messages = followed.messages ↔ source = Message.storedSource ∨
        ∀ fields ∈ kept, (Envelope.textField? "source" fields).isSome = true) ∧
      (opened.messages = followed.messages → ∀ asker seq,
        opened.recordsFor asker seq = followed.recordsFor asker seq) := by
  intro opening starting opened followed source kept
  obtain ⟨opens, openedLog⟩ := log_openRun_of_stores idle stores foreign
  obtain ⟨starts, followedLog⟩ := log_startRun_of_logs idle' logs (same ▸ whole)
  rw [same] at followedLog
  have rebuilt : opened.log.Rebuilt := openedLog ▸ Log.rebuilt_ofMessages _
  have rebuilt' : followed.log.Rebuilt := followedLog ▸ Log.rebuilt_ofMessages _
  exact ⟨opens, starts, messages_of_envelopes openedLog source,
    messages_of_envelopes followedLog source, tokens_of_envelopes openedLog followedLog,
    messages_eq_iff_of_envelopes openedLog followedLog, recordsFor_of_messages rebuilt rebuilt'⟩

/-- Settings under which what names no source is from a bot. -/
def botSettings : Settings := { Settings.default with defaultSource := "bot" }

/-- A call with its result, the call again from nobody, and a payload of no known shape. -/
def namedEnvelopes : List (List (String × Json)) :=
  [[("content", .arr [.obj [("id", .str "c1"), ("name", .str "search")]]), ("id", .str "m1"),
      ("source", .str "agent")],
    [("content", .arr [.obj [("call_id", .str "c1"), ("content", .str "42")]]),
      ("source", .str "agent")],
    [("content", .str "again"), ("id", .str "m1")],
    [("content", .obj [("kind", .str "text")]), ("source", .str "agent")]]

theorem writable_named : RunDirectory.Writable namedEnvelopes where
  fits := by
    simp [RunDirectory.runOfEnvelopes, namedEnvelopes, Json.Fits, Json.FitsItems, Json.FitsFields,
      Json.FitsField]
  exact := Json.readsBack_of_doubles_eq_nil rfl
  nested := by decide +kernel
  sorted := by decide +kernel
  within := by decide +kernel
  whole := by decide +kernel

theorem opened_eq_followed_named :
    let d := RunDirectory.ofEnvelopes namedEnvelopes
    let s := new botSettings (.recorded d) .epoch 8
    s.Idle d ∧ d.Stores s.now "r1" namedEnvelopes ∧ d.Logs "r1" namedEnvelopes ∧
      (∀ fields ∈ namedEnvelopes, Message.isForeign fields = true) ∧
      (∀ fields ∈ namedEnvelopes, (Event.ofValue "bot" (.obj fields)).isDelta = false) ∧
      (s.carryOut false (.openRun "r1")).1.viewer.conversation.messages =
        (s.carryOut false (.startRun "r1")).1.viewer.conversation.messages := by
  intro d s
  have idle : s.Idle d := idle_new _ _ _ _
  have foreign : ∀ fields ∈ namedEnvelopes, Message.isForeign fields = true := by decide
  have whole : ∀ fields ∈ namedEnvelopes,
      (Event.ofValue "bot" (.obj fields)).isDelta = false := by decide +kernel
  have named : ∀ fields ∈ firstBy (fun fields => (Envelope.message "bot" fields).id) namedEnvelopes,
      (Envelope.textField? "source" fields).isSome = true := by decide +kernel
  have agree := (opened_eq_followed_iff idle idle rfl writable_named.stores writable_named.logs
    foreign whole).2.2.2.2.2.1
  exact ⟨idle, writable_named.stores, writable_named.logs, foreign, whole, agree.mpr (.inr named)⟩

/-- A text that names no source. -/
def unnamedEnvelopes : List (List (String × Json)) := [[("content", .str "Hi")]]

theorem writable_unnamed : RunDirectory.Writable unnamedEnvelopes where
  fits := by
    simp [RunDirectory.runOfEnvelopes, unnamedEnvelopes, Json.Fits, Json.FitsItems, Json.FitsFields,
      Json.FitsField]
  exact := Json.readsBack_of_doubles_eq_nil rfl
  nested := by decide +kernel
  sorted := by decide +kernel
  within := by decide +kernel
  whole := by decide +kernel

/-- The text is from the stored source in one conversation, and from the default source in the other. -/
theorem opened_ne_followed_unnamed :
    let d := RunDirectory.ofEnvelopes unnamedEnvelopes
    let s := new botSettings (.recorded d) .epoch 8
    d.Stores s.now "r1" unnamedEnvelopes ∧ d.Logs "r1" unnamedEnvelopes ∧
      (∀ fields ∈ unnamedEnvelopes, Message.isForeign fields = true) ∧
      (∀ fields ∈ unnamedEnvelopes, (Event.ofValue "bot" (.obj fields)).isDelta = false) ∧
      (s.carryOut false (.openRun "r1")).1.viewer.conversation.messages ≠
        (s.carryOut false (.startRun "r1")).1.viewer.conversation.messages := by
  intro d s
  have idle : s.Idle d := idle_new _ _ _ _
  have stores : d.Stores s.now "r1" unnamedEnvelopes := writable_unnamed.stores
  have logs : d.Logs "r1" unnamedEnvelopes := writable_unnamed.logs
  have foreign : ∀ fields ∈ unnamedEnvelopes, Message.isForeign fields = true := by decide
  have whole : ∀ fields ∈ unnamedEnvelopes,
      (Event.ofValue "bot" (.obj fields)).isDelta = false := by decide +kernel
  have unnamed : ¬("bot" = Message.storedSource ∨
      ∀ fields ∈ firstBy (fun fields => (Envelope.message "bot" fields).id) unnamedEnvelopes,
        (Envelope.textField? "source" fields).isSome = true) := by decide +kernel
  have agree := messages_eq_iff_of_envelopes (log_openRun_of_stores idle stores foreign).2
    (log_startRun_of_logs idle logs whole).2
  exact ⟨stores, logs, foreign, whole, fun same => unnamed (agree.mp same)⟩

end Stage

end Transcript
