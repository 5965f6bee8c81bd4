import Transcript.Proofs.Conversation.Announcement
import Transcript.Proofs.Conversation.Interleaving
import Mathlib.Data.List.Infix

/-! # Frames that are delivered twice

Of a list of frames that comes a second time the conversation drops every message that it knows by its
id. What has no id is taken again: the pieces of growing texts, whose final text is dropped this time,
failures and unknown payloads. They add what they would make of an empty conversation, and nothing else
changes (`redelivered_eq`).
-/

namespace Transcript

/-- The id that an envelope carries, whatever it turns out to mean. -/
def Frame.carriedId? : Frame → Option String
  | .envelope value => value.fields?.bind Envelope.idField?
  | .delta .. | .failure _ => none

namespace Event

/-- Whether the event is of a kind that keeps no id: a piece, a failure or an unknown payload. -/
def isAnonymous : Event → Bool
  | .delta .. | .error .. | .other .. => true
  | _ => false

theorem messageId_of_isAnonymous {e : Event} (anonymous : e.isAnonymous = true) :
    e.messageId = none := by
  cases e <;> first | rfl | contradiction

theorem isDelta_of_named {e : Event} (named : e.isAnonymous = false) : e.isDelta = false := by
  cases e <;> first | rfl | contradiction

end Event

/-- A recogniser keeps the id of the envelope, or makes an event that has none. -/
theorem Envelope.messageId_of_recognise? {e : Envelope} {event : Event}
    (recognised : e.recognise? = some event) (named : event.isAnonymous = false) :
    event.messageId = e.id := by
  obtain ⟨recogniser, member, said⟩ := List.exists_of_findSome?_eq_some recognised
  simp only [recognisers, List.mem_cons, List.not_mem_nil, or_false] at member
  rcases member with rfl | rfl | rfl | rfl | rfl | rfl | rfl | rfl
  · simp only [error?, Option.ite_none_right_eq_some, Option.some.injEq] at said
    obtain ⟨-, rfl⟩ := said
    contradiction
  · simp only [delta?, Option.ite_none_right_eq_some, Option.map_eq_some_iff] at said
    obtain ⟨-, text, -, rfl⟩ := said
    contradiction
  · simp only [taskSummary?, bind, Option.bind_eq_some_iff, pure, Option.some.injEq] at said
    obtain ⟨holder, -, result, -, rfl⟩ := said
    rfl
  · simp only [modelTrace?, bind, Option.bind_eq_some_iff, pure, Option.ite_none_right_eq_some,
      Option.some.injEq] at said
    obtain ⟨text, -, -, rfl⟩ := said
    rfl
  all_goals
    obtain ⟨payload, -, rfl⟩ := Option.map_eq_some_iff.mp said
    rfl

/-- An event that keeps an id keeps the one that its envelope carries. -/
theorem Event.messageId_ofFrame {defaultSource : String} {frame : Frame}
    (named : (ofFrame defaultSource frame).isAnonymous = false) :
    (ofFrame defaultSource frame).messageId = frame.carriedId? := by
  cases frame with
  | delta source piece => contradiction
  | failure message => contradiction
  | envelope value =>
    cases value with
    | obj fields =>
      cases recognised : (Envelope.read defaultSource fields).recognise? with
      | none => simp [ofFrame, ofValue, recognised, isAnonymous] at named
      | some event =>
        simp only [ofFrame, ofValue, recognised, Option.getD_some] at named ⊢
        exact Envelope.messageId_of_recognise? recognised named
    | _ => contradiction

/-- Frames that may be delivered again: what is no piece of a text carries an id of its own, and every
growing text is followed by its final one. -/
structure Identified (defaultSource : String) (frames : List Frame) : Prop where
  carried : ∀ f ∈ frames, (Event.ofFrame defaultSource f).isDelta = false → f.carriedId?.isSome
  distinct : ((frames.filter fun f => !(Event.ofFrame defaultSource f).isDelta).filterMap
    Frame.carriedId?).Nodup
  completed : ∀ f later, f :: later <:+ frames → (Event.ofFrame defaultSource f).isDelta →
    ∃ g ∈ later, (Event.finalTextOf? (Event.ofFrame defaultSource f).source
      (some (Event.ofFrame defaultSource g))).isSome

namespace Event

theorem of_mem_piece? {e : Event} {piece : Piece} (said : piece ∈ piece? (some e)) :
    e.isDelta = true ∧ e.source = piece.1 := by
  cases e with
  | delta source body =>
    obtain rfl : (source, body) = piece := by simpa [piece?] using said
    exact ⟨rfl, rfl⟩
  | _ => simp [piece?] at said

/-- Where every growing text is closed, no piece is left. -/
theorem openPieces_eq_nil {es : List (Option Event)}
    (closed : ∀ e? later, e? :: later <:+ es → ∀ piece ∈ piece? e?, later.any (closes piece.1)) :
    openPieces es = [] := by
  induction es with
  | nil => rfl
  | cons e? rest ih =>
    have others := ih fun e? later suffix => closed e? later (suffix.trans (List.suffix_cons _ rest))
    rw [openPieces, others]
    cases said : piece? e? with
    | none => rfl
    | some piece => exact if_pos (closed e? rest List.suffix_rfl piece said)

end Event

namespace Identified

variable {defaultSource : String} {frames : List Frame}

theorem messageId_isSome (identified : Identified defaultSource frames) {f : Frame}
    (member : f ∈ frames) (named : (Event.ofFrame defaultSource f).isAnonymous = false) :
    (Event.ofFrame defaultSource f).messageId.isSome := by
  rw [Event.messageId_ofFrame named]
  exact identified.carried f member (Event.isDelta_of_named named)

/-- No two of the events have the same id. -/
theorem nodup_ids (identified : Identified defaultSource frames) :
    (frames.filterMap fun f => (Event.ofFrame defaultSource f).messageId).Nodup := by
  have kept : (frames.filterMap fun f => (Event.ofFrame defaultSource f).messageId) =
      (frames.filter fun f => !(Event.ofFrame defaultSource f).isAnonymous).filterMap
        Frame.carriedId? := by
    rw [List.filterMap_filter]
    congr 1
    funext f
    cases anonymous : (Event.ofFrame defaultSource f).isAnonymous with
    | true => simpa using Event.messageId_of_isAnonymous anonymous
    | false => simpa using Event.messageId_ofFrame anonymous
  rw [kept]
  refine identified.distinct.sublist (List.Sublist.filterMap _ (List.monotone_filter_right _ ?_))
  intro f named
  simp only [Bool.not_eq_eq_eq_not, Bool.not_true] at named ⊢
  exact Event.isDelta_of_named named

/-- A final text closes every growing one. -/
theorem openPieces_eq_nil (identified : Identified defaultSource frames) :
    Event.openPieces (frames.map fun f => some (Event.ofFrame defaultSource f)) = [] := by
  apply Event.openPieces_eq_nil
  intro e? later suffix piece said
  obtain ⟨unmapped, within, same⟩ := List.suffix_map_iff.mp suffix
  cases unmapped with
  | nil => contradiction
  | cons f rest =>
    obtain ⟨rfl, rfl⟩ := List.cons.inj same
    obtain ⟨growing, spoken⟩ := Event.of_mem_piece? said
    obtain ⟨g, follows, final⟩ := identified.completed f rest within growing
    rw [spoken] at final
    refine List.any_eq_true.mpr ⟨_, List.mem_map_of_mem follows, ?_⟩
    rw [Event.closes, final, Bool.or_true]

end Identified

/-! ## What a second delivery adds -/

/-- The frames that keep no id, which a second delivery adds again. -/
def anonymousIn (defaultSource : String) (frames : List Frame) : List Frame :=
  frames.filter fun f => (Event.ofFrame defaultSource f).isAnonymous

theorem Streaming.eq_empty {s : Streaming} (nothing : s.toList = []) : s = ∅ :=
  congrArg Streaming.mk (Keyed.ext nothing)

namespace Log

/-- Messages without usage leave the totals. -/
theorem tokens_foldl_enter {ms : List Message} (free : ∀ m ∈ ms, m.usage = none) (l : Log) :
    (ms.foldl enter l).tokens = l.tokens := by
  induction ms generalizing l with
  | nil => rfl
  | cons m rest ih =>
    obtain ⟨first, later⟩ := List.forall_mem_cons.mp free
    have kept : (l.enter m).tokens = l.tokens := by
      obtain ⟨id, source, content, usage⟩ := m
      obtain rfl : usage = none := first
      cases content <;> rfl
    rw [List.foldl_cons, ih later, kept]

end Log

namespace Conversation

open Event

/-- What is finished depends on the growing texts alone. -/
theorem finished_eq_of_streaming {c other : Conversation} (same : c.streaming = other.streaming)
    (e? : Option Event) : c.finished e? = other.finished e? := by
  have flushed : c.flushed = other.flushed := by simp only [Conversation.flushed, same]
  cases e? with
  | none => exact flushed
  | some e => cases e <;> simp only [finished, flushed, pendingText, same]

/-- What keeps no id brings texts, errors and unknown payloads only. -/
theorem quiet_of_mem_finished {c : Conversation} {e? : Option Event}
    (anonymous : e?.all Event.isAnonymous = true) {m : Message} (member : m ∈ c.finished e?) :
    m.content.isCall = false ∧ m.usage = none := by
  have texts : ∀ m ∈ c.flushed, m.content.isCall = false ∧ m.usage = none := by
    intro m member
    obtain ⟨buffer, -, rfl⟩ := List.mem_map.mp member
    exact ⟨rfl, rfl⟩
  cases e? with
  | none => exact texts m member
  | some e =>
    cases e with
    | delta source piece => contradiction
    | error source message =>
      rcases List.mem_append.mp member with text | last
      · exact texts m text
      · obtain rfl := List.mem_singleton.mp last
        exact ⟨rfl, rfl⟩
    | other source payload =>
      obtain rfl := List.mem_singleton.mp member
      exact ⟨rfl, rfl⟩
    | _ => contradiction

/-- Whether a conversation has gone on from `base` as `alone` has from nothing, and knows all the
ids of `base`. -/
structure Continues (base alone c : Conversation) : Prop where
  messages : c.messages.toList = base.messages.toList ++ alone.messages.toList
  streaming : c.streaming = alone.streaming
  tokens : c.tokens = base.tokens
  register : c.register = base.register
  seen : base.seen ⊆ c.seen

/-- What keeps no id is added to both. -/
theorem Continues.accept {base alone c : Conversation} (continues : Continues base alone c)
    {e? : Option Event} (anonymous : e?.all Event.isAnonymous = true) :
    Continues base (alone.accept e?) (c.accept e?) := by
  constructor
  · rw [messages_accept, messages_accept, continues.messages,
      finished_eq_of_streaming continues.streaming, List.append_assoc]
  · exact congrArg (Streaming.after · e?) continues.streaming
  · have free : ∀ m ∈ c.finished e?, m.usage = none :=
      fun _ member => (quiet_of_mem_finished anonymous member).2
    exact (Log.tokens_foldl_enter free c.log).trans continues.tokens
  · have silent : ∀ m ∈ c.finished e?, m.content.isCall = false :=
      fun _ member => (quiet_of_mem_finished anonymous member).1
    exact (Log.register_foldl_enter silent c.log).trans continues.register
  · intro id known
    exact (Log.mem_seen_foldl_enter (c.finished e?) c.log id).mpr (.inl (continues.seen known))

/-- Frames whose ids are known go on as those among them that keep none. -/
theorem Continues.follow {base alone c : Conversation} (continues : Continues base alone c)
    (same : alone.settings = c.settings) {frames : List Frame}
    (known : ∀ f ∈ frames, (ofFrame c.settings.defaultSource f).isAnonymous = false →
      base.isDuplicate (ofFrame c.settings.defaultSource f) = true) :
    Continues base (follow (anonymousIn c.settings.defaultSource frames) alone)
      (follow frames c) := by
  induction frames using List.reverseRecOn with
  | nil => exact continues
  | append_singleton rest last ih =>
    have before := ih fun f member => known f (List.mem_append_left [last] member)
    have settings : (Conversation.follow rest c).settings = c.settings := settings_feed _ c
    rw [anonymousIn, List.filter_append, ← anonymousIn, follow_concat]
    cases anonymous : (ofFrame c.settings.defaultSource last).isAnonymous with
    | true =>
      have settings' : (Conversation.follow (anonymousIn c.settings.defaultSource rest) alone).settings =
          c.settings := (settings_feed _ alone).trans same
      have fresh : ∀ d : Conversation,
          d.isDuplicate (ofFrame c.settings.defaultSource last) = false := by
        intro d
        rw [isDuplicate, messageId_of_isAnonymous anonymous]
      rw [List.filter_cons_of_pos (by simpa using anonymous), List.filter_nil, follow_concat, ingest,
        ingest, settings, settings', dispatch_fst, dispatch_fst, fresh, fresh,
        if_neg Bool.false_ne_true, if_neg Bool.false_ne_true]
      exact before.accept anonymous
    | false =>
      have again : (Conversation.follow rest c).isDuplicate
          (ofFrame c.settings.defaultSource last) = true := by
        have held := known last (List.mem_append_right rest List.mem_cons_self) anonymous
        unfold isDuplicate at held ⊢
        split at held
        · exact List.contains_iff_mem.mpr (before.seen (List.contains_iff_mem.mp held))
        · contradiction
      rw [List.filter_cons_of_neg (by simpa using anonymous), List.filter_nil, List.append_nil,
        ingest_of_isDuplicate (settings ▸ again)]
      exact before

/-- The run of the frames alone, from its beginning to the end of its stream. -/
def afterRun (c : Conversation) (runId : String) (frames : List Frame) : Conversation :=
  (endStream (follow frames (beginRun runId c).1)).1

section

variable (c : Conversation) (runId : String) {frames : List Frame}

/-- After frames that may be delivered again no text is growing. -/
theorem streaming_of_identified (identified : Identified c.settings.defaultSource frames) :
    (follow frames (beginRun runId c).1).streaming = ∅ := by
  have follows := follows_feed c (.beginRun runId) (frames.map .frame)
  rw [List.map_map] at follows
  have distinct : ((frames.map (Input.event? c.settings.defaultSource ∘ Input.frame)).filterMap
      (·.bind messageId)).Nodup := by
    rw [List.filterMap_map]
    exact identified.nodup_ids
  have entries := follows.streaming
  rw [heard, firstBy_of_nodup distinct] at entries
  exact Streaming.eq_empty (entries.trans (congrArg joined identified.openPieces_eq_nil))

/-- At the end of the stream nothing is left to finish then. -/
theorem afterRun_of_identified (identified : Identified c.settings.defaultSource frames) :
    let base := follow frames (beginRun runId c).1
    c.afterRun runId frames = { base with status := base.status.settled } := by
  intro base
  have settled : base.streaming = ∅ := streaming_of_identified c runId identified
  have nothing : base.finished none = [] := by
    simp only [finished, flushed, settled]
    rfl
  rw [afterRun, endStream_fst, accept, nothing]
  change { base with streaming := ∅, status := base.status.settled } = _
  rw [← settled]

/-- Every message that such frames have brought is known when it comes again. -/
theorem isDuplicate_of_identified (identified : Identified c.settings.defaultSource frames)
    {f : Frame} (member : f ∈ frames)
    (named : (ofFrame c.settings.defaultSource f).isAnonymous = false) :
    (follow frames (beginRun runId c).1).isDuplicate (ofFrame c.settings.defaultSource f) = true := by
  obtain ⟨id, carried⟩ := Option.isSome_iff_exists.mp (identified.messageId_isSome member named)
  rw [isDuplicate, carried]
  exact List.contains_iff_mem.mpr
    ((mem_seen_follow c (.beginRun runId) frames id).mpr ⟨f, member, carried⟩)

/-- A second delivery goes on from the first as the frames that keep no id do on their own. -/
theorem continues_of_identified (identified : Identified c.settings.defaultSource frames) :
    Continues (follow frames (beginRun runId c).1)
      (c.afterRun runId (anonymousIn c.settings.defaultSource frames))
      (c.afterRun runId (frames ++ frames)) := by
  let start := (beginRun runId c).1
  let base := follow frames start
  have settings : base.settings = c.settings := settings_feed _ start
  have continues : Continues base start base :=
    ⟨(List.append_nil _).symm, streaming_of_identified c runId identified, rfl, rfl,
      List.Subset.refl _⟩
  have known : ∀ f ∈ frames, (ofFrame base.settings.defaultSource f).isAnonymous = false →
      base.isDuplicate (ofFrame base.settings.defaultSource f) = true := by
    rw [settings]
    intro f member named
    exact isDuplicate_of_identified c runId identified member named
  have followed := continues.follow settings.symm known
  have twice : c.afterRun runId (frames ++ frames) = (follow frames base).accept none := by
    rw [afterRun, endStream_fst, follow, List.map_append, feed_append]
    rfl
  rw [settings] at followed
  rw [twice, afterRun, endStream_fst]
  exact followed.accept rfl

/-- Every event leaves a message or a growing text. -/
theorem finished_append_flushed_ne_nil (e : Event) :
    c.finished (some e) ++ (c.accept (some e)).flushed ≠ [] := by
  cases whole : e.isDelta with
  | true =>
    cases e with
    | delta source piece =>
      intro nothing
      have gone : c.streaming.push source piece = ∅ :=
        Streaming.eq_empty (List.map_eq_nil_iff.mp (List.append_eq_nil_iff.mp nothing).2)
      have grown := c.streaming.pending_push_self source piece
      rw [gone] at grown
      contradiction
    | _ => contradiction
  | false => rcases c.finished_eq whole with alone | after <;> simp [*]

/-- Of frames that keep no id the last one shows at the end. -/
theorem messages_afterRun_eq_nil_iff
    (anonymous : ∀ f ∈ frames, (ofFrame c.settings.defaultSource f).isAnonymous = true) :
    (c.afterRun runId frames).messages.toList = [] ↔ frames = [] := by
  constructor
  · intro nothing
    rcases List.eq_nil_or_concat frames with none | ⟨rest, last, rfl⟩
    · exact none
    · exfalso
      let before := follow rest (beginRun runId c).1
      have settings : before.settings = c.settings := settings_feed _ (beginRun runId c).1
      have fresh : before.isDuplicate (ofFrame c.settings.defaultSource last) = false := by
        rw [isDuplicate, messageId_of_isAnonymous (anonymous last (by simp))]
      have taken : (ingest last before).1 =
          before.accept (some (ofFrame c.settings.defaultSource last)) := by
        rw [ingest, settings, dispatch_fst, fresh, if_neg Bool.false_ne_true]
      rw [List.concat_eq_append, afterRun, endStream_fst, messages_accept, follow_concat, taken,
        messages_accept, List.append_assoc] at nothing
      exact before.finished_append_flushed_ne_nil _ (List.append_eq_nil_iff.mp nothing).2
  · rintro rfl
    rfl

end

/-- Frames that are delivered twice in a row leave the tokens and the records of the calls as frames
that are delivered once do, and the messages too, but for those that the frames without an id make on
their own: these come once more at the end, and there are none only if there are no such frames. -/
theorem redelivered_eq (c : Conversation) (runId : String) (frames : List Frame)
    (identified : Identified c.settings.defaultSource frames) :
    let twice := c.afterRun runId (frames ++ frames)
    let once := c.afterRun runId frames
    let anonymous := anonymousIn c.settings.defaultSource frames
    twice.tokens = once.tokens ∧
      (∀ source seq, twice.recordsFor source seq = once.recordsFor source seq) ∧
      twice.messages.toList =
        once.messages.toList ++ (c.afterRun runId anonymous).messages.toList ∧
      (twice.messages = once.messages ↔ anonymous = []) := by
  intro twice once anonymous
  have ended : once = _ := afterRun_of_identified c runId identified
  have continues : Continues _ (c.afterRun runId anonymous) twice :=
    continues_of_identified c runId identified
  have messages : twice.messages.toList =
      once.messages.toList ++ (c.afterRun runId anonymous).messages.toList := by
    rw [ended]
    exact continues.messages
  refine ⟨?_, ?_, messages, ?_⟩
  · rw [ended]
    exact continues.tokens
  · intro source seq
    rw [ended]
    exact congrArg (fun register => CallRegister.recordsFor register source seq) continues.register
  · have all : ∀ f ∈ anonymous, (ofFrame c.settings.defaultSource f).isAnonymous = true :=
      fun _ member => (List.mem_filter.mp member).2
    rw [← messages_afterRun_eq_nil_iff c runId all, ← Array.toList_inj, messages]
    exact List.append_right_eq_self

/-- A text that came in pieces, with its final one, and a failure that has an id. -/
def answered : List Frame :=
  [.delta (some "a") "Hi",
    .envelope (.obj [("source", .str "a"), ("id", .str "m1"), ("content", .str "Hi")]),
    .envelope (.obj [("source", .str "a"), ("id", .str "m2"), ("error", .str "down")])]

theorem identified_answered : Identified (new .default).settings.defaultSource answered where
  carried := by decide +kernel
  distinct := by decide +kernel
  completed := by
    have checked : ∀ rest ∈ answered.tails, ∀ f ∈ rest.head?,
        (ofFrame (new .default).settings.defaultSource f).isDelta → ∃ g ∈ rest.tail,
          (finalTextOf? (ofFrame (new .default).settings.defaultSource f).source
            (some (ofFrame (new .default).settings.defaultSource g))).isSome := by decide +kernel
    intro f later suffix
    exact checked (f :: later) ((List.mem_tails _ _).mpr suffix) f rfl

theorem redelivered_eq_answered :
    let c := new .default
    Identified c.settings.defaultSource answered ∧
      (c.afterRun "r1" (answered ++ answered)).messages.toList =
        (c.afterRun "r1" answered).messages.toList ++
          [.text "a" "Hi", .plain "a" (.error "down")] := by
  intro c
  have added := (redelivered_eq c "r1" answered identified_answered).2.2.1
  have shown : (c.afterRun "r1" (anonymousIn c.settings.defaultSource answered)).messages.toList =
      [.text "a" "Hi", .plain "a" (.error "down")] := by decide +kernel
  exact ⟨identified_answered, shown ▸ added⟩

/-- The piece is taken again and its final text is not, so the text is said twice. -/
theorem redelivered_ne_answered :
    let c := new .default
    Identified c.settings.defaultSource answered ∧
      (c.afterRun "r1" (answered ++ answered)).messages ≠ (c.afterRun "r1" answered).messages :=
  ⟨identified_answered, by decide +kernel⟩

end Conversation

end Transcript
