import Transcript.Proofs.Conversation.Correlation
import Transcript.Proofs.Conversation.StreamedText

/-! # Sources do not interfere

What a conversation shows of one source is its strand: its messages, its growing text, the records of
its requests and the calls that wait. As long as no event closes the texts of all sources and no id is
used by two of them, a strand is what the frames of its source alone would have made of it
(`strand_eq_of_own_frames`), so the frames of several sources may arrive in any interleaving. Messages
stand at other numbers then, which is why strands hold records in the order of the requests.
-/

namespace Transcript

/-- What a conversation shows of one source. -/
structure Strand where
  messages : List Message
  pending : Option String
  /-- The records of the requests, in their order. -/
  records : List (List ToolRecord)
  /-- The calls without a result in the last request. -/
  waiting : List ToolCall
deriving DecidableEq, Repr

def messagesOf (source : String) (ms : List Message) : List Message :=
  ms.filter fun m => m.source = source

def framesOf (defaultSource source : String) (frames : List Frame) : List Frame :=
  frames.filter fun frame => (Event.ofFrame defaultSource frame).source = source

/-- The records of the requests of a source, in the order of the requests. -/
def recordsOfRequests (ms : List Message) (source : String) : List (List ToolRecord) :=
  (requestsIn ms source).map (recordsIn ms source)

/-! ## Records by the order of the requests -/

theorem callsOf?_of_ne {m : Message} {source : String} (other : m.source ≠ source) :
    m.callsOf? source = none := by
  unfold Message.callsOf?
  split
  · exact if_neg other
  · rfl

theorem resultsOf_of_ne {m : Message} {source : String} (other : m.source ≠ source) :
    m.resultsOf source = [] := by
  unfold Message.resultsOf
  split
  · exact if_neg other
  · rfl

theorem map_records_modifyHead_answerAll {scopes others : List ToolScope}
    (same : scopes.map ToolScope.records = others.map ToolScope.records)
    (results : List ToolResult) :
    (scopes.modifyHead fun scope => scope.answerAll results).map ToolScope.records =
      (others.modifyHead fun scope => scope.answerAll results).map ToolScope.records := by
  cases scopes with
  | nil =>
    obtain rfl := List.map_eq_nil_iff.mp same.symm
    rfl
  | cons scope older =>
    cases others with
    | nil => contradiction
    | cons other earlier =>
      obtain ⟨head, tail⟩ := List.cons.inj same
      simp only [List.modifyHead_cons, List.map_cons, ToolScope.answerAll, head, tail]

/-- The records in the scopes of a source are those that its own messages say. -/
theorem map_records_scopesIn (ms : List Message) (source : String) :
    (scopesIn ms source).map ToolScope.records =
      (scopesIn (messagesOf source ms) source).map ToolScope.records := by
  induction ms using List.reverseRecOn with
  | nil => rfl
  | append_singleton rest m ih =>
    rw [messagesOf, List.filter_append, ← messagesOf]
    by_cases own : m.source = source
    · rw [List.filter_cons_of_pos (by simpa using own), List.filter_nil, scopesIn_concat,
        scopesIn_concat]
      cases m.callsOf? source with
      | some calls => simp only [List.map_cons, ih]
      | none => exact map_records_modifyHead_answerAll ih _
    · rw [List.filter_cons_of_neg (by simpa using own), List.filter_nil, List.append_nil,
        scopesIn_concat, callsOf?_of_ne own, resultsOf_of_ne own]
      simp only [ToolScope.modifyHead_answerAll_nil, ih]

theorem recordsOfRequests_eq (ms : List Message) (source : String) :
    recordsOfRequests ms source = ((scopesIn ms source).map ToolScope.records).reverse := by
  simp [recordsOfRequests, scopesIn, Function.comp_def]

theorem recordsOfRequests_messagesOf (ms : List Message) (source : String) :
    recordsOfRequests ms source = recordsOfRequests (messagesOf source ms) source := by
  rw [recordsOfRequests_eq, map_records_scopesIn, ← recordsOfRequests_eq]

namespace Conversation

def strand (c : Conversation) (source : String) : Strand where
  messages := messagesOf source c.messages.toList
  pending := c.pendingText source
  records := (requestsIn c.messages.toList source).map (c.recordsFor source)
  waiting := (c.unresolvedCalls.filter fun pair => pair.1 = source).map Prod.snd

/-- A strand is known by its messages and its growing text. -/
theorem strand_eq {c : Conversation} (rebuilt : c.log.Rebuilt) (source : String) :
    let records := recordsOfRequests (messagesOf source c.messages.toList) source
    c.strand source =
      { messages := messagesOf source c.messages.toList
        pending := c.pendingText source
        records
        waiting := ((records.getLast?.getD []).filter fun r => !r.isResolved).map ToolRecord.call } := by
  intro records
  have scopes : c.register.scopes source = scopesIn c.messages.toList source := rebuilt.scopes source
  have own : records = recordsOfRequests c.messages.toList source :=
    (recordsOfRequests_messagesOf c.messages.toList source).symm
  have read : c.recordsFor source = recordsIn c.messages.toList source := by
    funext seq
    rw [recordsFor, CallRegister.recordsFor_eq, scopes, find?_scopesIn]
  have last : ((c.register.scopes source).head?.map ToolScope.records).getD [] =
      records.getLast?.getD [] := by
    rw [own, recordsOfRequests_eq, scopes, List.getLast?_reverse, List.head?_map]
  have apart : (c.register.unresolved.filter fun pair => pair.1 = source).map Prod.snd =
      c.register.unresolvedOf source :=
    c.register.unresolved_of_source source
  have waiting : (c.unresolvedCalls.filter fun pair => pair.1 = source).map Prod.snd =
      (c.register.unresolvedOf source).map ToolRecord.call := by
    rw [← apart, unresolvedCalls]
    simp [List.filter_map, Function.comp_def]
  rw [strand, waiting, CallRegister.unresolvedOf_eq, last, own, read]
  rfl

/-! ## Frames of other sources -/

open Event

/-- An event that does not close the texts of all sources finishes messages of its own source. -/
theorem source_of_mem_finished {c : Conversation} {e : Event} (single : closesAll (some e) = false) :
    ∀ m ∈ c.finished (some e), m.source = e.source := by
  cases e with
  | taskSummary source id summary awaits => contradiction
  | error source message => contradiction
  | _ => simp [finished, Event.toMessage, Event.source, Message.plain]

theorem pending_after_of_ne (s : Streaming) {e : Event} (single : closesAll (some e) = false)
    {source : String} (other : e.source ≠ source) :
    (s.after (some e)).pending source = s.pending source := by
  cases e with
  | delta speaker piece => exact s.pending_push_of_ne other piece
  | text speaker id content usage awaits => exact s.pending_take_of_ne other
  | taskSummary speaker id summary awaits => contradiction
  | error speaker message => contradiction
  | _ => rfl

/-- What an event makes of the growing text of its source depends on this text alone. -/
theorem pending_after_congr {s s' : Streaming} {e : Event} (single : closesAll (some e) = false)
    (same : s.pending e.source = s'.pending e.source) :
    (s.after (some e)).pending e.source = (s'.after (some e)).pending e.source := by
  cases e with
  | delta speaker piece =>
    have before : s.pending speaker = s'.pending speaker := same
    exact (s.pending_push_self speaker piece).trans
      (before ▸ (s'.pending_push_self speaker piece).symm)
  | text speaker id content usage awaits =>
    exact (s.pending_take_self speaker).trans (s'.pending_take_self speaker).symm
  | taskSummary speaker id summary awaits => contradiction
  | error speaker message => contradiction
  | _ => exact same

theorem finished_congr {c c' : Conversation} {e : Event} (single : closesAll (some e) = false)
    (same : c.pendingText e.source = c'.pendingText e.source) :
    c.finished (some e) = c'.finished (some e) := by
  cases e with
  | text speaker id content usage awaits =>
    have before : c.pendingText speaker = c'.pendingText speaker := same
    simp only [finished, before]
  | taskSummary speaker id summary awaits => contradiction
  | error speaker message => contradiction
  | _ => rfl

/-- Whether two conversations hold the same of a source. -/
structure AgreesOn (source : String) (c c' : Conversation) : Prop where
  messages : messagesOf source c.messages.toList = messagesOf source c'.messages.toList
  pending : c.pendingText source = c'.pendingText source

theorem messagesOf_accept (c : Conversation) (e? : Option Event) (source : String) :
    messagesOf source (c.accept e?).messages.toList =
      messagesOf source c.messages.toList ++ messagesOf source (c.finished e?) := by
  rw [messages_accept, messagesOf, List.filter_append]
  rfl

namespace AgreesOn

variable {source : String} {c c' : Conversation} {e : Event}

/-- An event of another source leaves the agreement. -/
theorem accept_other (agrees : AgreesOn source c c') (single : closesAll (some e) = false)
    (other : e.source ≠ source) : AgreesOn source (c.accept (some e)) c' where
  messages := by
    have foreign : messagesOf source (c.finished (some e)) = [] := by
      rw [messagesOf, List.filter_eq_nil_iff]
      intro m member
      simpa [source_of_mem_finished single m member] using other
    rw [messagesOf_accept, foreign, List.append_nil]
    exact agrees.messages
  pending := (pending_after_of_ne c.streaming single other).trans agrees.pending

/-- An event of the source does the same to both. -/
theorem accept_own (agrees : AgreesOn source c c') (single : closesAll (some e) = false)
    (own : e.source = source) : AgreesOn source (c.accept (some e)) (c'.accept (some e)) := by
  subst own
  constructor
  · rw [messagesOf_accept, messagesOf_accept, agrees.messages,
      finished_congr single agrees.pending]
  · exact pending_after_congr single agrees.pending

end AgreesOn

/-- Frames of which none closes the texts of all sources, and no two of different sources share an
id. -/
structure Separate (defaultSource : String) (frames : List Frame) : Prop where
  single : ∀ f ∈ frames, closesAll (some (.ofFrame defaultSource f)) = false
  ids : ∀ f ∈ frames, ∀ g ∈ frames, (Event.ofFrame defaultSource f).messageId.isSome →
    (Event.ofFrame defaultSource f).messageId = (Event.ofFrame defaultSource g).messageId →
    (Event.ofFrame defaultSource f).source = (Event.ofFrame defaultSource g).source

theorem Separate.of_subset {defaultSource : String} {frames others : List Frame}
    (separate : Separate defaultSource frames) (within : others ⊆ frames) :
    Separate defaultSource others where
  single f member := separate.single f (within member)
  ids f member g member' := separate.ids f (within member) g (within member')

def follow (frames : List Frame) (c : Conversation) : Conversation :=
  (feed (frames.map .frame) c).1

section Follow

variable (c : Conversation) (beginning : Beginning)

theorem follow_concat (frames : List Frame) (last : Frame) :
    follow (frames ++ [last]) c = (ingest last (follow frames c)).1 := by
  rw [follow, List.map_append]
  exact feed_concat _ _ c

theorem mem_seen_follow (frames : List Frame) (id : String) :
    id ∈ (follow frames (beginning.conversation c)).seen ↔
      ∃ f ∈ frames, (Event.ofFrame c.settings.defaultSource f).messageId = some id := by
  have follows := follows_feed c beginning (frames.map .frame)
  simp only [follow, follows.seen, List.map_map, List.mem_filterMap, List.mem_map]
  constructor
  · rintro ⟨_, ⟨f, member, rfl⟩, known⟩
    exact ⟨f, member, known⟩
  · rintro ⟨f, member, known⟩
    exact ⟨_, ⟨f, member, rfl⟩, known⟩

theorem ingest_follow (frames : List Frame) (last : Frame) :
    let e := Event.ofFrame c.settings.defaultSource last
    let before := follow frames (beginning.conversation c)
    (ingest last before).1 = if before.isDuplicate e then before else before.accept (some e) := by
  have same : (follow frames (beginning.conversation c)).settings = c.settings := by
    rw [follow, settings_feed, settings_beginning]
  intro e before
  rw [ingest, dispatch_fst, same]

/-- A message is delivered again to its source if it is delivered again at all. -/
theorem isDuplicate_framesOf {frames : List Frame} {last : Frame}
    (separate : Separate c.settings.defaultSource (frames ++ [last])) :
    let e := Event.ofFrame c.settings.defaultSource last
    (follow (framesOf c.settings.defaultSource e.source frames)
        (beginning.conversation c)).isDuplicate e =
      (follow frames (beginning.conversation c)).isDuplicate e := by
  intro e
  unfold isDuplicate
  cases known : e.messageId with
  | none => rfl
  | some id =>
    rw [Bool.eq_iff_iff, List.contains_iff_mem, List.contains_iff_mem, mem_seen_follow,
      mem_seen_follow]
    constructor
    · rintro ⟨f, member, delivered⟩
      exact ⟨f, (List.mem_filter.mp member).1, delivered⟩
    · rintro ⟨f, member, delivered⟩
      have own := separate.ids f (List.mem_append_left _ member) last
        (List.mem_append_right _ List.mem_cons_self) (by simp [delivered]) (delivered.trans known.symm)
      exact ⟨f, List.mem_filter.mpr ⟨member, by simpa using own⟩, delivered⟩

theorem agreesOn_follow {frames : List Frame} (separate : Separate c.settings.defaultSource frames)
    (source : String) :
    AgreesOn source (follow frames (beginning.conversation c))
      (follow (framesOf c.settings.defaultSource source frames) (beginning.conversation c)) := by
  induction frames using List.reverseRecOn with
  | nil => exact ⟨rfl, rfl⟩
  | append_singleton rest last ih =>
    have agrees := ih (separate.of_subset (List.subset_append_left rest [last]))
    have single := separate.single last (List.mem_append_right rest List.mem_cons_self)
    rw [framesOf, List.filter_append, ← framesOf, follow_concat, ingest_follow]
    by_cases own : (Event.ofFrame c.settings.defaultSource last).source = source
    · subst own
      rw [List.filter_cons_of_pos (by simp), List.filter_nil, follow_concat, ingest_follow,
        isDuplicate_framesOf c beginning separate]
      split
      · exact agrees
      · exact agrees.accept_own single rfl
    · rw [List.filter_cons_of_neg (by simpa using own), List.filter_nil, List.append_nil]
      split
      · exact agrees
      · exact agrees.accept_other single own

theorem strand_follow {frames : List Frame} (separate : Separate c.settings.defaultSource frames)
    (source : String) :
    (follow frames (beginning.conversation c)).strand source =
      (follow (framesOf c.settings.defaultSource source frames)
        (beginning.conversation c)).strand source := by
  obtain ⟨messages, pending⟩ := agreesOn_follow c beginning separate source
  have rebuilt : ∀ frames, (follow frames (beginning.conversation c)).log.Rebuilt :=
    fun frames => rebuilt_feed (rebuilt_beginning c beginning) _
  simp only [strand_eq (rebuilt _), messages, pending]

end Follow

/-- After frames of which none is a failure or a summary and no two of different sources share an id,
the conversation of every source is the one that its own frames make alone, and so it is the same
after every interleaving of the frames of the sources. -/
theorem strand_eq_of_own_frames (c : Conversation) (runId : String) (frames : List Frame)
    (separate : Separate c.settings.defaultSource frames) :
    let start := (beginRun runId c).1
    let own := framesOf c.settings.defaultSource
    (∀ source, (follow frames start).strand source =
        (follow (own source frames) start).strand source) ∧
      ∀ others, (∀ source, own source others = own source frames) →
        ∀ source, (follow others start).strand source = (follow frames start).strand source := by
  intro start own
  have alone := strand_follow c (.beginRun runId) separate
  refine ⟨alone, ?_⟩
  intro others interleaved source
  have within : others ⊆ frames := by
    intro f member
    have mine : f ∈ own (Event.ofFrame c.settings.defaultSource f).source others :=
      List.mem_filter.mpr ⟨member, by simp⟩
    rw [interleaved] at mine
    exact (List.mem_filter.mp mine).1
  calc (follow others start).strand source
      = (follow (own source others) start).strand source :=
        strand_follow c (.beginRun runId) (separate.of_subset within) source
    _ = (follow (own source frames) start).strand source := by rw [interleaved]
    _ = (follow frames start).strand source := (alone source).symm

def calling : List Frame :=
  [.envelope (.obj [("source", .str "a"), ("id", .str "m1"), ("content", .arr [.obj [("id", .str "c1"),
      ("name", .str "search"), ("arguments", .str "")]])]),
    .envelope (.obj [("source", .str "a"), ("id", .str "m2"),
      ("content", .arr [.obj [("call_id", .str "c1"), ("content", .str "42")]])])]

def speaking : List Frame := [.delta (some "b") "He", .delta (some "b") "llo"]

/-- The frames of both sources, one of each in turn. -/
def byTurns : List Frame := [speaking, calling].transpose.flatten

theorem strand_eq_of_own_frames_byTurns :
    let start := (beginRun "r1" (new .default)).1
    let own := framesOf "assistant"
    Separate "assistant" (calling ++ speaking) ∧
      (∀ source, own source byTurns = own source (calling ++ speaking)) ∧
      (follow byTurns start).strand "a" = (follow (calling ++ speaking) start).strand "a" ∧
      (follow byTurns start).recordsFor "a" 0 = [⟨⟨"c1", "search", ""⟩, some (.of "c1" "42")⟩] := by
  intro start own
  have separate : Separate "assistant" (calling ++ speaking) :=
    ⟨by decide +kernel, by decide +kernel⟩
  have interleaved : ∀ source, own source byTurns = own source (calling ++ speaking) := by
    intro source
    by_cases caller : source = "a"
    · rw [caller]
      decide +kernel
    · by_cases speaker : source = "b"
      · rw [speaker]
        decide +kernel
      · have nobody : ∀ frames, (∀ f ∈ frames, (Event.ofFrame "assistant" f).source = "a" ∨
            (Event.ofFrame "assistant" f).source = "b") → own source frames = [] := by
          intro frames both
          refine List.filter_eq_nil_iff.mpr fun f member => ?_
          rcases both f member with same | same <;> simp [same, Ne.symm caller, Ne.symm speaker]
        rw [nobody byTurns (by decide +kernel), nobody _ (by decide +kernel)]
  exact ⟨separate, interleaved,
    (strand_eq_of_own_frames (new .default) "r1" (calling ++ speaking) separate).2 byTurns interleaved
      "a", by decide +kernel⟩

end Conversation

end Transcript
