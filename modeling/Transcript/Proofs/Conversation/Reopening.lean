import Transcript.Conversation.Snapshot
import Transcript.Proofs.Conversation.Rebuilding

/-! # Stored runs and live runs

A conversation that is stored and loaded again is the conversation it was, but for growing texts,
which are not stored (`load_stored`). A run that is loaded from the messages of its frames is the run
that was followed live, as long as no text came in pieces (`feed_frames`): the two ways to fill a
conversation cannot drift apart.
-/

namespace Transcript

/-- Whether the event is a piece of a growing text. -/
def Event.isDelta : Event → Bool
  | .delta .. => true
  | _ => false

namespace Conversation

/-! ## Storing and loading -/

/-- The run that a conversation is stored as; a draft gives what the conversation does not know. -/
def stored (c : Conversation) (draft : Run) : Run :=
  { draft with id := c.runId.getD draft.id, messages := c.messages.toList, status := c.status }

/-- Loading takes a stored conversation over, but for its growing texts. -/
theorem load_stored {c : Conversation} (rebuilt : c.log.Rebuilt) (draft : Run)
    (other : Conversation) :
    (load (c.stored draft) other).1 =
      { c with
        settings := other.settings, runId := some (c.runId.getD draft.id), streaming := ∅,
        epoch := other.epoch + 1 } := by
  have same : Log.ofMessages (c.stored draft).messages = c.log := rebuilt
  rw [load_fst, same]
  rfl

/-- A conversation that is stored and loaded again is as before, wherever it is loaded, and after
the end of its stream it is shown as before. -/
theorem reopened_eq (settings : Settings) (operations : List Operation) (draft : Run)
    (other : Conversation) (same : other.settings = settings) :
    let c := (run operations (new settings)).1
    let reopened := (load (c.stored draft) other).1
    let ended := (endStream c).1
    reopened.messages = c.messages ∧ reopened.tokens = c.tokens ∧ reopened.status = c.status ∧
      reopened.seen = c.seen ∧
      (∀ source seq, reopened.recordsFor source seq = c.recordsFor source seq) ∧
      (∀ source, reopened.register.activeTrigger? source = c.register.activeTrigger? source) ∧
      reopened.unresolvedCalls = c.unresolvedCalls ∧ reopened.streaming = ∅ ∧
      (ended.runId.isSome → (load (ended.stored draft) other).1.snapshot = ended.snapshot) := by
  intro c reopened ended
  have rebuilt : c.log.Rebuilt := rebuilt_run settings operations
  have reopens : reopened = _ := load_stored rebuilt draft other
  rw [reopens]
  refine ⟨rfl, rfl, rfl, rfl, fun _ _ => rfl, fun _ => rfl, rfl, rfl, ?_⟩
  intro named
  obtain ⟨id, known⟩ := Option.isSome_iff_exists.mp named
  have settled : ended.streaming = ∅ := congrArg streaming (endStream_fst c)
  have unchanged : ended.settings = other.settings :=
    (settings_input .ended c).trans ((settings_run operations (new settings)).trans same.symm)
  have stays : ended.log.Rebuilt := rebuilt_input rebuilt .ended
  rw [load_stored stays draft other]
  simp only [snapshot, visible, shown, recordsFor, known, settled, unchanged, Option.getD_some]

/-- A run in which a call is answered, a message comes twice and a text is cut short. -/
def cutShort : List Operation :=
  [.restart (.beginRun "r1"),
    .input (.frame (.envelope (.obj [("source", .str "agent"), ("id", .str "m1"),
      ("content", .arr [.obj [("id", .str "c1"), ("name", .str "search"),
        ("arguments", .str "")]])]))),
    .input (.frame (.envelope (.obj [("source", .str "agent"),
      ("content", .arr [.obj [("call_id", .str "c1"), ("content", .str "42")]])]))),
    .input (.frame (.envelope (.obj [("source", .str "agent"), ("id", .str "m1"),
      ("content", .str "again")]))),
    .input (.frame (.delta (some "agent") "The answer"))]

theorem reopened_eq_cutShort :
    let ended := (endStream (run cutShort (new .default)).1).1
    let draft := Run.start "" "s1" "" .epoch
    (new .default).settings = .default ∧ ended.runId.isSome ∧ ended.messages.size = 3 ∧
      (load (ended.stored draft) (new .default)).1.snapshot = ended.snapshot := by
  refine ⟨rfl, by decide +kernel, by decide +kernel, ?_⟩
  have reopens := reopened_eq .default cutShort (.start "" "s1" "" .epoch) (new .default) rfl
  exact reopens.2.2.2.2.2.2.2.2 (by decide +kernel)

/-! ## Live runs -/

theorem finished_of_silent {c : Conversation} (silent : c.streaming = ∅) {e : Event}
    (whole : e.isDelta = false) : c.finished (some e) = [e.toMessage] := by
  have nothing : c.flushed = [] := by simp only [flushed, silent]; rfl
  cases e with
  | delta source piece => contradiction
  | text source id content usage awaits => simp only [finished, pendingText, silent]; rfl
  | taskSummary source id summary awaits => simp only [finished, nothing, List.nil_append]
  | error source message => simp only [finished, nothing, List.nil_append]
  | _ => rfl

theorem after_of_silent {s : Streaming} (silent : s = ∅) {e : Event} (whole : e.isDelta = false) :
    s.after (some e) = ∅ := by
  subst silent
  cases e with
  | delta source piece => contradiction
  | _ => rfl

/-- While no text is growing, a whole event is taken as its message is from a stored run. -/
theorem dispatch_of_silent {c : Conversation} (silent : c.streaming = ∅) {e : Event}
    (whole : e.isDelta = false) :
    ∃ status, (dispatch e c).1 = { c.withLog (c.log.take e.toMessage) with status } := by
  rw [dispatch_fst, Log.take, holds_log]
  split
  · exact ⟨c.status, rfl⟩
  · refine ⟨c.status.after e, ?_⟩
    simp only [accept, finished_of_silent silent whole, after_of_silent silent whole, ← silent]
    rfl

/-- Frames without growing text are taken as their messages are from a stored run. -/
theorem feed_frames (frames : List Frame) {c : Conversation} (silent : c.streaming = ∅)
    (whole : ∀ frame ∈ frames, (Event.ofFrame c.settings.defaultSource frame).isDelta = false) :
    ∃ status, (feed (frames.map .frame) c).1 =
      { c.withLog ((frames.map fun frame =>
          (Event.ofFrame c.settings.defaultSource frame).toMessage).foldl Log.take c.log) with
        status } := by
  induction frames generalizing c with
  | nil => exact ⟨c.status, rfl⟩
  | cons frame rest ih =>
    obtain ⟨first, later⟩ := List.forall_mem_cons.mp whole
    obtain ⟨next, step⟩ := dispatch_of_silent silent first
    obtain ⟨status, steps⟩ := ih (c := { c.withLog (c.log.take
      (Event.ofFrame c.settings.defaultSource frame).toMessage) with status := next }) silent later
    refine ⟨status, ?_⟩
    change (feed (rest.map .frame) (dispatch _ c).1).1 = _
    rw [step]
    exact steps

/-- A run that is loaded from the messages of its frames is the run that was followed live, but for
its status, which is the stored one. -/
theorem live_eq_loaded (earlier other : Conversation) (same : other.settings = earlier.settings)
    (draft : Run) (frames : List Frame)
    (whole : ∀ frame ∈ frames,
      (Event.ofFrame earlier.settings.defaultSource frame).isDelta = false) :
    let live := (feed (frames.map .frame) (beginRun draft.id earlier).1).1
    let messages := frames.map fun frame =>
      (Event.ofFrame earlier.settings.defaultSource frame).toMessage
    let loaded := (load { draft with messages } other).1
    live.messages = loaded.messages ∧ live.tokens = loaded.tokens ∧ live.seen = loaded.seen ∧
      (∀ source seq, live.recordsFor source seq = loaded.recordsFor source seq) ∧
      live.unresolvedCalls = loaded.unresolvedCalls ∧
      live.streaming = ∅ ∧ loaded.streaming = ∅ ∧
      loaded = { live with status := draft.status, epoch := other.epoch + 1 } := by
  intro live messages loaded
  obtain ⟨status, followed⟩ := feed_frames frames (c := (beginRun draft.id earlier).1) rfl whole
  have follows : live = _ := followed
  have loads : loaded = _ := load_fst { draft with messages } other
  rw [follows, loads]
  refine ⟨rfl, rfl, rfl, fun _ _ => rfl, rfl, rfl, rfl, ?_⟩
  simp only [cleared, same]
  rfl

/-- Frames with a call, a failure, a summary and a second delivery. -/
def wholeFrames : List Frame :=
  [.envelope (.obj [("id", .str "m1"), ("content", .arr [.obj [("id", .str "c1"),
      ("name", .str "search"), ("arguments", .str "")]])]),
    .failure "down",
    .envelope (.obj [("id", .str "m2"), ("task_result", .obj [("stop_reason", .str "done")])]),
    .envelope (.obj [("id", .str "m1"), ("content", .str "again")])]

theorem live_eq_loaded_wholeFrames :
    let start := new .default
    let draft := Run.start "r1" "s1" "" .epoch
    let event := Event.ofFrame start.settings.defaultSource
    let live := (feed (wholeFrames.map .frame) (beginRun draft.id start).1).1
    let loaded := (load { draft with messages := wholeFrames.map fun frame =>
      (event frame).toMessage } start).1
    start.settings = start.settings ∧ (∀ frame ∈ wholeFrames, (event frame).isDelta = false) ∧
      live.messages = loaded.messages ∧ live.messages.size = 3 := by
  intro start draft event live loaded
  have whole : ∀ frame ∈ wholeFrames, (event frame).isDelta = false := by decide +kernel
  have agree := live_eq_loaded start start rfl draft wholeFrames whole
  exact ⟨rfl, whole, agree.1, by decide +kernel⟩

end Conversation

end Transcript
