import Transcript.Proofs.Conversation.Rebuilding
import Transcript.Proofs.Conversation.Pieces

/-! # Streamed text is neither lost nor said twice

The pieces of a source that no later event closes are its growing text (`openPieces`), and whatever
closes them makes one text of them. Both sides are read off the events alone: second deliveries are
left out (`heard`), then every closing point is seen by its event. The growing texts of a conversation
follow (`Follows`), and with them every text that is appended (`appended_texts`).
-/

namespace Transcript

namespace Event

/-- Whether an event closes the growing texts of all sources; the end of the stream does. -/
def closesAll : Option Event → Bool
  | none | some (.taskSummary ..) | some (.error ..) => true
  | some _ => false

def finalTextOf? (source : String) : Option Event → Option String
  | some (.text speaker _ body ..) => if speaker = source then some body else none
  | _ => none

def closes (source : String) (e? : Option Event) : Bool :=
  closesAll e? || (finalTextOf? source e?).isSome

/-- What an event adds to a growing text. -/
def piece? : Option Event → Option Piece
  | some (.delta source body) => some (source, body)
  | _ => none

/-- The pieces whose source no later event closes. -/
def openPieces : List (Option Event) → List Piece
  | [] => []
  | e? :: rest =>
    match piece? e? with
    | some piece => if rest.any (closes piece.1) then openPieces rest else piece :: openPieces rest
    | none => openPieces rest

theorem openPieces_concat (es : List (Option Event)) (e? : Option Event) :
    openPieces (es ++ [e?]) =
      (openPieces es).filter (fun piece => !closes piece.1 e?) ++ (piece? e?).toList := by
  induction es with
  | nil => cases said : piece? e? <;> simp [openPieces, said]
  | cons first rest ih =>
    simp only [List.cons_append, openPieces, List.any_append, List.any_cons, List.any_nil,
      Bool.or_false, ih]
    cases piece? first with
    | none => rfl
    | some piece =>
      by_cases closed : rest.any (closes piece.1)
      · simp [closed]
      · by_cases last : closes piece.1 e? <;> simp [closed, last]

/-- The events that count: a second delivery of a message does not. -/
def heard (es : List (Option Event)) : List (Option Event) := firstBy (·.bind messageId) es

def isRepeat (es : List (Option Event)) (e? : Option Event) : Bool :=
  repeats (·.bind messageId) es e?

theorem heard_concat (es : List (Option Event)) (e? : Option Event) :
    heard (es ++ [e?]) = if isRepeat es e? then heard es else heard es ++ [e?] :=
  firstBy_concat _ es e?

end Event

def textsOf (source : String) (ms : List Message) : List String :=
  ms.filterMap fun m =>
    match m.content with
    | .text body => if m.source = source then some body else none
    | _ => none

namespace Conversation

open Event

/-- The growing texts lose the pieces that an event closes and gain what it adds. -/
theorem toList_after {s : Streaming} {pieces : List Piece} (same : s.toList = joined pieces)
    (e? : Option Event) :
    (s.after e?).toList =
      joined (pieces.filter (fun piece => !closes piece.1 e?) ++ (piece? e?).toList) := by
  -- An event closes all growing texts, the one of its source, or none.
  have drained : closesAll e? = true →
      pieces.filter (fun piece => !closes piece.1 e?) = [] := by
    intro all
    simp [closes, all]
  have kept : (∀ source, closes source e? = false) →
      pieces.filter (fun piece => !closes piece.1 e?) = pieces := by
    intro none
    simp [none]
  cases e? with
  | none => rw [drained rfl]; rfl
  | some e =>
    cases e with
    | delta source piece => rw [kept (fun _ => rfl)]; exact toList_push same source piece
    | text source id content usage awaits =>
      have others : (fun piece : Piece => !closes piece.1 (some (.text source id content usage awaits))) =
          fun piece => decide (piece.1 ≠ source) := by
        funext piece
        by_cases here : source = piece.1 <;> simp [closes, closesAll, finalTextOf?, here, eq_comm]
      rw [others, show piece? (some (.text source id content usage awaits)) = none from rfl,
        Option.toList_none, List.append_nil]
      exact toList_take same source
    | taskSummary source id summary awaits => rw [drained rfl]; rfl
    | error source message => rw [drained rfl]; rfl
    | _ =>
      rw [kept (fun _ => rfl)]
      change s.toList = joined (pieces ++ [])
      rw [List.append_nil]
      exact same

/-- A conversation knows of its events the ids and the pieces that are open. -/
structure Follows (c : Conversation) (es : List (Option Event)) : Prop where
  seen : ∀ id, id ∈ c.seen ↔ id ∈ es.filterMap (·.bind messageId)
  streaming : c.streaming.toList = joined (openPieces (heard es))

namespace Follows

variable {c : Conversation} {es : List (Option Event)}

theorem isRepeat_eq (follows : c.Follows es) (e? : Option Event) :
    isRepeat es e? = e?.any c.isDuplicate := by
  have known : e?.any c.isDuplicate = (e?.bind messageId).any c.seen.contains := by
    cases e? with
    | none => rfl
    | some e => simp only [Option.any_some, isDuplicate, Option.bind_some]; cases e.messageId <;> rfl
  rw [known, isRepeat, repeats]
  cases e?.bind messageId with
  | none => rfl
  | some id => simp [follows.seen id]

/-- An event that is heard is followed. -/
theorem accept (follows : c.Follows es) {e? : Option Event} (fresh : isRepeat es e? = false) :
    (c.accept e?).Follows (es ++ [e?]) where
  seen id := by
    have seen : id ∈ (c.accept e?).seen ↔ id ∈ c.seen ∨ id ∈ (e?.bind messageId).toList := by
      rw [← filterMap_id_finished c e?]
      exact Log.mem_seen_foldl_enter (c.finished e?) c.log id
    rw [seen, follows.seen id, List.filterMap_append, List.mem_append]
    cases known : e?.bind messageId <;> simp [known]
  streaming := by
    rw [heard_concat, fresh, if_neg Bool.false_ne_true, openPieces_concat]
    exact toList_after follows.streaming e?

/-- A second delivery changes nothing, and all else is followed. -/
theorem input (follows : c.Follows es) (input : Input) :
    (input.update c).1.Follows (es ++ [input.event? c.settings.defaultSource]) := by
  rw [update_fst, ← follows.isRepeat_eq]
  generalize input.event? c.settings.defaultSource = e?
  split
  · next again =>
    constructor
    · intro id
      rw [follows.seen, mem_filterMap_of_repeats again]
    · rw [heard_concat, again, if_pos rfl]
      exact follows.streaming
  · next fresh => exact follows.accept (Bool.eq_false_iff.mpr fresh)

end Follows

/-- A conversation that has just begun follows all that it is fed. -/
theorem follows_feed (c : Conversation) (beginning : Beginning) (inputs : List Input) :
    (feed inputs (beginning.conversation c)).1.Follows
      (inputs.map (Input.event? c.settings.defaultSource)) := by
  induction inputs using List.reverseRecOn with
  | nil => cases beginning <;> exact ⟨fun id => Iff.rfl, rfl⟩
  | append_singleton rest last ih =>
    have step := ih.input last
    rw [settings_feed, settings_beginning] at step
    rw [feed_concat, List.map_append]
    exact step

/-! ## The texts that are appended -/

theorem textsOf_append (source : String) (before after : List Message) :
    textsOf source (before ++ after) = textsOf source before ++ textsOf source after :=
  List.filterMap_append

theorem textsOf_texts {sources : List String} (distinct : sources.Nodup) (body : String → String)
    (source : String) :
    textsOf source (sources.map fun other => .text other (body other)) =
      if source ∈ sources then [body source] else [] := by
  induction sources with
  | nil => rfl
  | cons first rest ih =>
    obtain ⟨absent, distinct⟩ := List.nodup_cons.mp distinct
    rw [List.map_cons, ← List.singleton_append, textsOf_append, ih distinct]
    by_cases here : first = source
    · subst here
      simp [textsOf, Message.text, Message.plain, absent]
    · simp [textsOf, Message.text, Message.plain, here, Ne.symm here]

section Appended

variable {c : Conversation} {pieces : List Piece}

theorem flushed_eq (same : c.streaming.toList = joined pieces) :
    c.flushed = (speakers pieces).map fun source =>
      .text source (String.join (textsBy pieces source)) := by
  rw [flushed, same, joined, List.map_map]
  rfl

theorem textsOf_flushed (same : c.streaming.toList = joined pieces) (source : String) :
    textsOf source c.flushed = (grown pieces source).toList := by
  rw [flushed_eq same, textsOf_texts (nodup_speakers pieces), grown_eq]
  split <;> rfl

/-- What closes the growing text of a source makes one text of it, or else says its own. -/
theorem textsOf_finished (same : c.streaming.toList = joined pieces) (e? : Option Event)
    (source : String) :
    textsOf source (c.finished e?) =
      if closes source e? then ((grown pieces source).or (finalTextOf? source e?)).toList else [] := by
  have drained : textsOf source c.flushed = ((grown pieces source).or none).toList := by
    rw [textsOf_flushed same, Option.or_none]
  cases e? with
  | none => exact drained
  | some e =>
    cases e with
    | text speaker id content usage awaits =>
      by_cases here : speaker = source
      · subst here
        have pending : c.pendingText speaker = grown pieces speaker := pending_of_toList same speaker
        cases begun : grown pieces speaker <;>
          simp [closes, closesAll, finalTextOf?, finished, textsOf, pending, begun]
      · simp [closes, closesAll, finalTextOf?, finished, textsOf, here]
    | taskSummary speaker id summary awaits =>
      rw [finished, textsOf_append, drained]
      exact List.append_nil _
    | error speaker message =>
      rw [finished, textsOf_append, drained]
      exact List.append_nil _
    | _ => rfl

/-- What closes all growing texts makes a message of each, in the order in which they began, in
front of its own. -/
theorem finished_of_closesAll (same : c.streaming.toList = joined pieces) {e? : Option Event}
    (all : closesAll e? = true) :
    c.finished e? =
      ((speakers pieces).map fun source => .text source (String.join (textsBy pieces source))) ++
        (e?.map toMessage).toList := by
  rw [← flushed_eq same]
  cases e? with
  | none => exact (List.append_nil _).symm
  | some e => cases e <;> first | contradiction | rfl

end Appended

/-- A growing text is what its source has said since it was last closed, every text that is
appended is a whole one of these or a final text of its own, and no other is. -/
theorem appended_texts (c : Conversation) (beginning : Beginning) (inputs : List Input)
    (next : Input) :
    let events := inputs.map (Input.event? c.settings.defaultSource)
    let e? := next.event? c.settings.defaultSource
    let before := (feed inputs (beginning.conversation c)).1
    let after := (feed (inputs ++ [next]) (beginning.conversation c)).1
    let pieces := openPieces (heard events)
    (∀ source, before.pendingText source = grown pieces source) ∧
      ∃ added, after.messages.toList = before.messages.toList ++ added ∧
        (∀ source, textsOf source added =
          if !isRepeat events e? && closes source e? then
            ((grown pieces source).or (finalTextOf? source e?)).toList
          else []) ∧
        (!isRepeat events e? && closesAll e? →
          added =
            ((speakers pieces).map fun source => .text source (String.join (textsBy pieces source))) ++
              (e?.map toMessage).toList) := by
  intro events e? before after pieces
  have follows : before.Follows events := follows_feed c beginning inputs
  have settings : before.settings = c.settings := by
    rw [settings_feed, settings_beginning]
  have step : after = if isRepeat events e? then before else before.accept e? := by
    have taken := feed_concat inputs next (beginning.conversation c)
    rw [update_fst, settings, ← follows.isRepeat_eq] at taken
    exact taken
  refine ⟨fun source => pending_of_toList follows.streaming source, ?_⟩
  cases again : isRepeat events e? with
  | true =>
    refine ⟨[], ?_, fun _ => rfl, fun closing => nomatch closing⟩
    rw [step, again, if_pos rfl, List.append_nil]
  | false =>
    refine ⟨before.finished e?, ?_, textsOf_finished follows.streaming e?,
      finished_of_closesAll follows.streaming⟩
    rw [step, again, if_neg Bool.false_ne_true, messages_accept]

/-- Two sources speak in turns, and a second delivery in between closes nothing. -/
def inTurns : List Input :=
  [.frame (.envelope (.obj [("source", .str "a"), ("id", .str "m1"), ("content", .str "Hi")])),
    .frame (.delta (some "b") "Wor"),
    .frame (.delta (some "a") "Hel"),
    .frame (.envelope (.obj [("source", .str "a"), ("id", .str "m1"), ("content", .str "Hi")])),
    .frame (.delta (some "a") "lo"),
    .frame (.delta (some "b") "ld")]

theorem appended_texts_inTurns :
    (feed (inTurns ++ [.ended]) (Beginning.new.conversation (new .default))).1.messages.toList =
      (feed inTurns (Beginning.new.conversation (new .default))).1.messages.toList ++
        [.text "b" "World", .text "a" "Hello"] := by
  obtain ⟨_, added, grows, _, closing⟩ := appended_texts (new .default) .new inTurns .ended
  have said : openPieces (heard (inTurns.map (Input.event? (new .default).settings.defaultSource))) =
      [("b", "Wor"), ("a", "Hel"), ("a", "lo"), ("b", "ld")] := by decide +kernel
  rw [grows, closing (by decide +kernel), said]
  simp [speakers, firstBy, textsBy, String.join, Input.event?]

end Conversation

end Transcript
