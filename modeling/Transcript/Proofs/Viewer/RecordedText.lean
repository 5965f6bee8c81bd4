import Transcript.Proofs.Viewer.Idle

/-! # Logs of plain text

A log in which no line is an object is one text that grows line by line, from the default source, until
the log ends. Blank lines are no frames, so of these nothing is left in the text: the message is the
whole of the log exactly if it has no blank line (`Stage.startRun_plainText`).
-/

namespace Transcript

/-- A part of a list of texts makes up the whole only if nothing of it is left out. -/
theorem join_filter_eq_iff {p : String → Bool} {texts : List String}
    (nonempty : ∀ text ∈ texts, text ≠ "") :
    String.join (texts.filter p) = String.join texts ↔ ∀ text ∈ texts, p text = true := by
  have shorter : ∀ texts : List String,
      (String.join (texts.filter p)).length ≤ (String.join texts).length := by
    intro texts
    induction texts with
    | nil => exact Nat.le_refl _
    | cons text rest ih =>
      simp only [String.length_join] at ih ⊢
      cases kept : p text <;> simp [kept] <;> omega
  induction texts with
  | nil => simp
  | cons text rest ih =>
    obtain ⟨first, later⟩ := List.forall_mem_cons.mp nonempty
    cases kept : p text with
    | true => simp [kept, ih later]
    | false =>
      rw [List.filter_cons_of_neg (by simp [kept]), List.forall_mem_cons]
      simp only [kept, Bool.false_eq_true, false_and, iff_false]
      intro same
      have lengths := congrArg String.length same
      have bound := shorter rest
      have positive : 0 < text.length := by
        rw [Nat.pos_iff_ne_zero, ne_eq, String.length_eq_zero_iff]
        exact first
      rw [String.join_cons, String.length_append] at lengths
      omega

/-- Pieces that are all of one source are one text. -/
theorem joined_of_one (source : String) (texts : List String) :
    joined (texts.map fun text => (source, text)) =
      if texts = [] then [] else [(source, String.join texts)] := by
  have speakers : speakers (texts.map fun text => (source, text)) =
      if texts = [] then [] else [source] := by
    induction texts using List.reverseRecOn with
    | nil => rfl
    | append_singleton rest last ih =>
      rw [List.map_append, List.map_singleton, speakers_concat, ih]
      split <;> simp
  have texts : textsBy (texts.map fun text => (source, text)) source = texts := by
    simp [textsBy, List.filter_map, Function.comp_def]
  rw [joined, speakers]
  split
  · rfl
  · rw [List.map_singleton, texts]

namespace Conversation

/-- Pieces that nobody closes are a growing text and nothing else. -/
theorem follow_pieces (c : Conversation) (runId : String) (texts : List String) :
    let after := follow (texts.map (.delta none)) (beginRun runId c).1
    after.messages = #[] ∧
      after.streaming.toList = joined (texts.map fun text => (c.settings.defaultSource, text)) := by
  induction texts using List.reverseRecOn with
  | nil => exact ⟨rfl, rfl⟩
  | append_singleton rest last ih =>
    obtain ⟨messages, streaming⟩ := ih
    have step := ingest_follow c (.beginRun runId) (rest.map (.delta none)) (.delta none last)
    rw [List.map_append, List.map_singleton, follow_concat, List.map_append]
    exact step ▸ ⟨messages, toList_push streaming _ _⟩

/-- A run of pieces is one message, or none if nothing was said. -/
theorem afterRun_pieces (c : Conversation) (runId : String) (texts : List String) :
    let after := c.afterRun runId (texts.map (.delta none))
    after.streaming = ∅ ∧ after.messages.toList =
      if texts = [] then [] else [.text c.settings.defaultSource (String.join texts)] := by
  intro after
  obtain ⟨messages, streaming⟩ := c.follow_pieces runId texts
  have ended : after = accept (follow (texts.map (.delta none)) (beginRun runId c).1) none :=
    endStream_fst _
  rw [ended]
  refine ⟨rfl, ?_⟩
  rw [messages_accept, messages, finished, flushed, streaming, joined_of_one]
  split <;> rfl

end Conversation

namespace Stage

variable {s : Stage} {d : RunDirectory} {runId : String} {bytes : List UInt8} {lines : List String}

/-- A log of lines that are no objects, started on an idle stage, is shown as one text of the default
source, made of the lines that are not blank. -/
theorem messages_of_plainText (idle : s.Idle d) (log : d.content runId "jsonl" = .bytes bytes)
    (holds : RunLog.Holds bytes lines)
    (plain : ∀ line ∈ lines, ∀ fields, Json.parse line ≠ .ok (.obj fields)) :
    let after := s.carryOut false (.startRun runId)
    let shown := after.1.viewer.conversation
    let said := lines.filter fun line => !Text.isAllBlank line
    after.2 = .outcome (some .started) ∧ shown.streaming = ∅ ∧
      shown.messages.toList = if said = [] then [] else
        [.text s.viewer.conversation.settings.defaultSource (String.join said)] := by
  intro after shown said
  obtain ⟨-, started, run⟩ := startRun_of_log idle log holds
  have pieces : said.map Frame.ofText = said.map (.delta none) :=
    List.map_congr_left fun line member =>
      Frame.ofText_of_not_parse (plain line (List.mem_of_mem_filter member))
  rw [pieces] at run
  have spoken := s.viewer.conversation.afterRun_pieces runId said
  rw [← run] at spoken
  exact ⟨started, spoken⟩

/-- What is shown of such a log is the text of all its lines exactly if none of them is blank: nothing
else is ever left out. -/
theorem startRun_plainText (idle : s.Idle d) (log : d.content runId "jsonl" = .bytes bytes)
    (holds : RunLog.Holds bytes lines) (written : lines ≠ [])
    (nonempty : ∀ line ∈ lines, line ≠ "")
    (plain : ∀ line ∈ lines, ∀ fields, Json.parse line ≠ .ok (.obj fields)) :
    let after := s.carryOut false (.startRun runId)
    let shown := after.1.viewer.conversation
    let source := s.viewer.conversation.settings.defaultSource
    let said := lines.filter fun line => !Text.isAllBlank line
    after.2 = .outcome (some .started) ∧ shown.streaming = ∅ ∧
      shown.messages.toList = (if said = [] then [] else [.text source (String.join said)]) ∧
      (shown.messages.toList = [.text source (String.join lines)] ↔
        ∀ line ∈ lines, Text.isAllBlank line = false) := by
  intro after shown source said
  obtain ⟨started, silent, messages⟩ := messages_of_plainText idle log holds plain
  refine ⟨started, silent, messages, ?_⟩
  have whole : String.join said = String.join lines ↔
      ∀ line ∈ lines, Text.isAllBlank line = false := by
    simpa using join_filter_eq_iff (p := fun line => !Text.isAllBlank line) nonempty
  rw [messages, ← whole]
  change (if said = [] then [] else [Message.text source (String.join said)]) = _ ↔ _
  constructor
  · intro same
    split at same
    · contradiction
    · simp only [Message.text, Message.plain, List.cons.injEq, Message.mk.injEq,
        Content.text.injEq] at same
      exact same.1.2.2.1
  · intro same
    have spoken : said ≠ [] := by
      obtain ⟨first, member⟩ := List.exists_mem_of_ne_nil lines written
      exact List.ne_nil_of_mem (List.mem_filter.mpr ⟨member, by simp [whole.mp same first member]⟩)
    rw [if_neg spoken, same]

/-- A directory in which two words are recorded, and the space between them. -/
def spoken : RunDirectory where
  read _ := .bytes (RunLog.ofLines ["Hello", " ", "world"])

theorem log_spoken : spoken.content "r1" "jsonl" =
    .bytes (RunLog.ofLines ["Hello", " ", "world"]) := rfl

theorem holds_spoken :
    RunLog.Holds (RunLog.ofLines ["Hello", " ", "world"]) ["Hello", " ", "world"] :=
  RunLog.holds_ofLines (by decide) (by decide)

theorem plain_spoken : ∀ line ∈ ["Hello", " ", "world"], ∀ fields,
    Json.parse line ≠ .ok (.obj fields) := by
  have unbraced : ∀ line ∈ ["Hello", " ", "world"],
      (Text.trimStart line.toList).head? ≠ some '{' := by decide
  intro line member fields parsed
  exact unbraced line member (Json.Reader.head?_trimStart_of_parse parsed)

/-- The words are shown without the space between them. -/
theorem startRun_plainText_spoken :
    let s := new .default (.recorded spoken) .epoch 8
    let shown := (s.carryOut false (.startRun "r1")).1.viewer.conversation
    s.Idle spoken ∧
      (∀ line ∈ ["Hello", " ", "world"], ∀ fields, Json.parse line ≠ .ok (.obj fields)) ∧
      shown.messages.toList = [.text Settings.default.defaultSource "Helloworld"] := by
  intro s shown
  have idle : s.Idle spoken := idle_new _ _ _ _
  have known := (startRun_plainText idle log_spoken holds_spoken (by simp) (by decide)
    plain_spoken).2.2.1
  refine ⟨idle, plain_spoken, ?_⟩
  rw [known]
  decide

theorem startRun_ne_spoken :
    let s := new .default (.recorded spoken) .epoch 8
    let shown := (s.carryOut false (.startRun "r1")).1.viewer.conversation
    s.Idle spoken ∧ RunLog.Holds (RunLog.ofLines ["Hello", " ", "world"]) ["Hello", " ", "world"] ∧
      (∀ line ∈ ["Hello", " ", "world"], ∀ fields, Json.parse line ≠ .ok (.obj fields)) ∧
      shown.messages.toList ≠
        [.text Settings.default.defaultSource (String.join ["Hello", " ", "world"])] := by
  intro s shown
  have idle : s.Idle spoken := idle_new _ _ _ _
  have known := (messages_of_plainText idle log_spoken holds_spoken plain_spoken).2.2
  refine ⟨idle, holds_spoken, plain_spoken, ?_⟩
  rw [known]
  decide

end Stage

end Transcript
