import Transcript.Proofs.Conversation.StatusHistory
import Transcript.Proofs.Viewer.Idle
import Transcript.Proofs.Viewer.OwnStream
import Transcript.Replay

/-! # A stream that is followed to the last leaves nothing open

What a conversation is told of a stream ends with the end of the stream or with a failure, and either
closes every growing text and ends all thinking (`Conversation.settled_feed_report`). A follower that is
never cancelled comes to that point by its own turns, and all that the conversation was told since its run
began is then the report of its stream, in whatever order the other tasks had their turns
(`Viewer.settled_of_followed`).
-/

namespace Transcript

open Follower (inputs report)

/-- Whatever is told of a stream, the last of it is its end or a failure. -/
theorem Follower.report_eq_concat (frames : List Frame) :
    ∃ earlier last, report frames = earlier ++ [last] ∧
      ∀ source, (last.event? source).all Event.isFailure = true := by
  induction frames with
  | nil => exact ⟨[], .ended, rfl, fun _ => rfl⟩
  | cons frame rest ih =>
    cases failure : frame.isFailure with
    | true =>
      obtain ⟨message, rfl⟩ : ∃ message, frame = .failure message := by
        cases frame with
        | failure message => exact ⟨message, rfl⟩
        | delta | envelope => contradiction
      exact ⟨[], .frame (.failure message), report_cons_of_failure failure rest, fun _ => rfl⟩
    | false =>
      obtain ⟨earlier, last, told, closes⟩ := ih
      refine ⟨.frame frame :: earlier, last, ?_, closes⟩
      rw [report_cons_of_whole failure, told, List.cons_append]

namespace Conversation

/-- Whether nothing is open any more in the conversation of a run that was told of these frames. -/
structure Settled (c : Conversation) (runId : String) (frames : List Frame) : Prop where
  /-- No text grows. -/
  silent : c.streaming.toList = []
  /-- Nobody is thinking. -/
  unhurried : c.status ≠ .thinking
  runId_eq : c.runId = some runId
  /-- The run has failed exactly if one of the frames, up to the first failure, is an error. -/
  failed : c.status = .error ↔ ∃ frame ∈ Frame.untilFailure frames,
    (Event.ofFrame c.settings.defaultSource frame).isFailure = true

/-- The end of a stream, and every failure, closes what is open. -/
theorem settled_input {c : Conversation} {input : Input}
    (last : (input.event? c.settings.defaultSource).all Event.isFailure = true) :
    (input.update c).1.streaming.toList = [] ∧ (input.update c).1.status ≠ .thinking := by
  rw [update_fst]
  generalize input.event? c.settings.defaultSource = e? at last
  cases e? with
  | none => exact ⟨rfl, Status.settled_ne_thinking c.status⟩
  | some e =>
    cases e with
    | error source message =>
      refine ⟨rfl, ?_⟩
      change c.status.after (.error source message) ≠ .thinking
      rw [after_eq, if_pos (.inr rfl)]
      decide
    | _ => contradiction

theorem eventsOf_report (c : Conversation) (frames : List Frame) :
    c.eventsOf (report frames) =
      (Frame.untilFailure frames).map (Event.ofFrame c.settings.defaultSource) := by
  have told : ∀ ended, c.eventsOf (inputs (Frame.untilFailure frames) ended) =
      (Frame.untilFailure frames).map (Event.ofFrame c.settings.defaultSource) := by
    intro ended
    cases ended <;> simp [eventsOf, inputs, List.filterMap_map, Function.comp_def, Input.event?]
  exact told _

/-- A run that was told all that there is to tell of a stream has settled. -/
theorem settled_feed_report (c : Conversation) (runId : String) (frames : List Frame) :
    (feed (report frames) (beginRun runId c).1).1.Settled runId frames := by
  have settings : (feed (report frames) (beginRun runId c).1).1.settings =
      (beginRun runId c).1.settings := settings_feed _ _
  obtain ⟨earlier, last, told, closes⟩ := Follower.report_eq_concat frames
  have ends := settled_input (c := (feed earlier (beginRun runId c).1).1) (closes _)
  rw [← feed_concat, ← told] at ends
  refine ⟨ends.1, ends.2, (runId_feed _ _).trans rfl, ?_⟩
  have status := (statusTold_feed c (.beginRun runId) (report frames)).failed
  rw [eventsOf_report] at status
  simpa [settings, Beginning.conversation] using status

end Conversation

namespace Viewer

open Conversation (feed)

namespace Shows

variable {v : Viewer} {n : Nat} {runId : String} {start : Conversation} {items : List Arrival}
  {taken : List Frame} {ended : Bool} {f : Follower}

/-- Nothing keeps the follower of a complete stream from reading on. -/
theorem free (shows : v.Shows n runId start items taken ended) (found : v.followers[n]? = some f)
    (uncancelled : f.cancelled = false) (complete : f.stream.isOpen = false)
    (unbroken : .crash ∉ items) : f.Free v.conversation.epoch := by
  obtain ⟨g, same, -, epoch, reads⟩ := shows.follower
  obtain rfl := Option.some.inj (found.symm.trans same)
  have kept : f.epoch = v.conversation.epoch := by
    rw [epoch, shows.conversation_eq, Conversation.epoch_feed]
  exact ⟨uncancelled, kept, complete, fun waits => unbroken (reads.crash_mem (.inr waits)),
    fun crashed => unbroken (reads.crash_mem (.inl crashed))⟩

/-- Once the follower is done the conversation was told all of its stream. -/
theorem conversation_eq_report (shows : v.Shows n runId start items taken ended)
    (found : v.followers[n]? = some f) (uncancelled : f.cancelled = false) (done : f.isDone = true)
    (unbroken : .crash ∉ items) :
    v.conversation = (feed (report (items.filterMap Arrival.frame?)) start).1 := by
  obtain ⟨g, same, -, -, reads⟩ := shows.follower
  obtain rfl := Option.some.inj (found.symm.trans same)
  rw [← reads.report_eq uncancelled done unbroken]
  exact shows.conversation_eq

end Shows

/-- Before the stream of a run is waited for there is nothing that has to stay as it has begun. -/
theorem Orderly.steady {v : Viewer} {call : Call} (orderly : v.Orderly)
    (serving : v.serving = some (call, .clearing)) : v.Steady v.conversation.settings :=
  { orderly with
    settings_eq := rfl
    begun := by simp [serving] }

/-- A follower that is not cancelled shows its own stream, whatever happened before its run began. -/
theorem exists_shows_of_uncancelled {settings : Settings} {earlier between later : List Moment}
    {opening start : Moment} {v : Viewer} {runId : String} {stream : Stream}
    (path : (new settings).Path (earlier ++ opening :: between ++ start :: later) v)
    (opens : opening.viewer.serving = some (.startRun runId, .clearing))
    (starts : start.segment = .serve (.stream (.ok stream)))
    (started : start.effects.started? = some runId)
    (alone : ∀ m ∈ opening :: between ++ start :: later, m.segment.isWrite = false) :
    let n := start.viewer.followers.length
    ∃ f, v.followers[n]? = some f ∧ (f.cancelled = false →
      ∃ (base : Conversation) (taken : List Frame) (ended : Bool),
        base.settings = opening.viewer.conversation.settings ∧
        v.Shows n runId (Conversation.beginRun runId base).1 (stream.queue ++ arrivals n later) taken
          ended) := by
  intro n
  obtain ⟨u, front, back⟩ := Path.append_iff.mp path
  obtain ⟨w, before, waiting⟩ := Path.append_iff.mp front
  obtain ⟨aloneBegun, aloneFollowed⟩ := List.forall_mem_append.mp alone
  obtain rfl : w = opening.viewer := by
    cases waiting
    rfl
  have orderly : opening.viewer.Orderly := orderly_of_path (orderly_new settings) before
  have steady : u.Steady opening.viewer.conversation.settings :=
    steady_of_path (orderly.steady opens) waiting aloneBegun
  obtain ⟨before, segment, effects⟩ := start
  obtain rfl : segment = .serve (.stream (.ok stream)) := starts
  obtain ⟨aloneFirst, aloneLater⟩ := List.forall_mem_cons.mp aloneFollowed
  cases back with
  | cons stepped later =>
    obtain ⟨base, settings_eq, shows⟩ := shows_of_started steady stepped started
    have steadyAfter := steady_step steady aloneFirst stepped
    obtain ⟨g, there, -⟩ := shows.follower
    obtain ⟨f, found, -⟩ := follower_of_path later there
    refine ⟨f, found, ?_⟩
    intro uncancelled
    have kept := clears_eq_false_of_uncancelled steadyAfter.toOrderly later there found uncancelled
    obtain ⟨taken, shows⟩ := shows_of_unreplaced steadyAfter shows later aloneLater kept
    exact ⟨base, taken, _, settings_eq, shows⟩

/-- Without `--history` a replay shows what has settled, whatever the log holds. -/
theorem exists_settled_of_replay (settings : Settings) (directory : RunDirectory) (now : Timestamp)
    (runId : String) :
    ∃ c : Conversation, Replay.snapshot settings directory now runId false = c.snapshot ∧
      c.Settled runId (directory.recorded runId) := by
  let stage := Stage.new settings (.recorded directory) now settings.notifyCapacity
  refine ⟨(stage.carryOut false (.startRun runId)).1.viewer.conversation, rfl, ?_⟩
  have idle : stage.Idle directory := Stage.idle_new settings directory now settings.notifyCapacity
  rw [(Stage.startRun_of_idle idle runId).2.1]
  exact Conversation.settled_feed_report _ _ _

/-- A stream that is never cancelled ends settled. From the time when the conversation of its run begins
nobody else changes the conversation, and what arrives are frames and failures. As long as its follower
was not cancelled, it comes to its end by its own turns once the stream is complete; and once it is done,
the conversation is the one that its run began with and the report of the stream, so what came after a
failure has had no effect, and nothing is open. A replay without `--history` never shows anything that is
open, whatever its log holds. -/
theorem settled_of_followed :
    (∀ (settings : Settings) (earlier between later : List Moment) (opening start : Moment) (v : Viewer)
      (runId : String) (stream : Stream),
      (new settings).Path (earlier ++ opening :: between ++ start :: later) v →
      opening.viewer.serving = some (.startRun runId, .clearing) →
      start.segment = .serve (.stream (.ok stream)) → start.effects.started? = some runId →
      (∀ m ∈ opening :: between ++ start :: later, m.segment.isWrite = false) →
      let n := start.viewer.followers.length
      let items := stream.queue ++ arrivals n later
      let frames := items.filterMap Arrival.frame?
      .crash ∉ items → ∃ f, v.followers[n]? = some f ∧ (f.cancelled = false →
        (f.stream.isOpen = false → ∃ turns w g, v.Path turns w ∧
          (∀ m ∈ turns, m.segment = .follow n) ∧ w.followers[n]? = some g ∧ g.isDone = true ∧
          g.cancelled = false) ∧
        (f.isDone = true → ∃ base : Conversation,
          base.settings = opening.viewer.conversation.settings ∧
          v.conversation = (feed (report frames) (Conversation.beginRun runId base).1).1 ∧
          v.conversation.Settled runId frames))) ∧
    ∀ (arguments : List String) (lookup : String → Option String)
      (directoryAt : String → RunDirectory) (now : Timestamp) (runId : String),
      Replay.Request.ofArguments arguments = .ok (.run runId false) →
      let directory := directoryAt (Settings.ofLookup lookup).runDirectory
      ∃ c : Conversation, Replay.run arguments lookup directoryAt now =
          ⟨0, c.snapshot.toJson.pretty ++ "\n", []⟩ ∧
        c.snapshot.streaming = [] ∧ c.snapshot.status ≠ .thinking ∧
        c.Settled runId (directory.recorded runId) := by
  constructor
  · intro settings earlier between later opening start v runId stream path opens starts started alone
      n items frames unbroken
    obtain ⟨f, found, shows⟩ := exists_shows_of_uncancelled path opens starts started alone
    refine ⟨f, found, ?_⟩
    intro uncancelled
    obtain ⟨base, taken, ended, settings_eq, shows⟩ := shows uncancelled
    constructor
    · intro complete
      obtain ⟨turns, g, path, own, -, closed, kept⟩ :=
        exists_path_of_free found (shows.free found uncancelled complete unbroken)
      exact ⟨turns, _, g, path, own, followers_moved found _ _, by simp [Follower.isDone, closed], kept⟩
    · intro done
      have told := shows.conversation_eq_report found uncancelled done unbroken
      exact ⟨base, settings_eq, told, told ▸ Conversation.settled_feed_report base runId frames⟩
  · intro arguments lookup directoryAt now runId asked directory
    obtain ⟨c, shown, settled⟩ :=
      exists_settled_of_replay (Settings.ofLookup lookup) directory now runId
    refine ⟨c, ?_, ?_, settled.unhurried, settled⟩
    · simp only [Replay.run, asked, ← shown, directory]
    · rw [Conversation.snapshot, settled.silent, List.filter_nil]

/-- The conversation is cleared behind the back of the viewer, and then a run is started. -/
def clearedBefore : List Segment :=
  [.write Conversation.reset, .call (.startRun "r1"), .serve .none]

/-- A stream that fails in the middle of a text, with more behind the failure. -/
def failingStream : Stream :=
  ⟨[.frame (.delta (some "a") "Hel"), .failure (.runNotFound "r1"), .frame (.delta (some "a") "lo")],
    false⟩

/-- What the stream says. -/
def failingFrames : List Frame :=
  [.delta (some "a") "Hel", .failure (DeliveryError.runNotFound "r1").message,
    .delta (some "a") "lo"]

/-- A directory in which a text is recorded that nothing closes. -/
def growing : RunDirectory where
  read _ := .bytes (RunLog.ofLines ["Hello"])

theorem settled_of_followed_failing :
    (∃ earlier opening start later v,
      (new .default).Path (earlier ++ opening :: [] ++ start :: later) v ∧
      (∃ m ∈ earlier, m.segment.isWrite = true) ∧
      opening.viewer.serving = some (.startRun "r1", .clearing) ∧
      start.segment = .serve (.stream (.ok failingStream)) ∧ start.effects.started? = some "r1" ∧
      (∀ m ∈ opening :: [] ++ start :: later, m.segment.isWrite = false) ∧
      (∃ f, v.followers[0]? = some f ∧ f.cancelled = false ∧ f.isDone = true) ∧
      v.conversation.Settled "r1" failingFrames) ∧
    ∃ c : Conversation, (Replay.run ["r1"] (fun _ => none) (fun _ => growing) .epoch).out =
        c.snapshot.toJson.pretty ++ "\n" ∧
      c.snapshot.streaming = [] ∧ c.snapshot.status ≠ .thinking := by
  constructor
  · obtain ⟨⟨earlier, u⟩, traced, ⟨w, began⟩, opens, ⟨x, effects⟩, stepped, ⟨later, v⟩, traced',
        written, opening, started, alone, only, arrived, f, found, uncancelled, done⟩ :
        ∃ first ∈ (new .default).trace? clearedBefore, ∃ next ∈ first.2.step (.serve .none),
          ∃ start ∈ next.1.step (.serve (.stream (.ok failingStream))),
          ∃ rest ∈ start.1.trace? [.follow 0, .follow 0, .follow 0, .follow 0],
          (∃ m ∈ first.1, m.segment.isWrite = true) ∧
          first.2.serving = some (.startRun "r1", .clearing) ∧ start.2.started? = some "r1" ∧
          (∀ m ∈ ⟨first.2, .serve .none, next.2⟩ :: [] ++
            ⟨next.1, .serve (.stream (.ok failingStream)), start.2⟩ :: rest.1,
              m.segment.isWrite = false) ∧
          next.1.followers.length = 0 ∧ arrivals 0 rest.1 = [] ∧
          ∃ f ∈ rest.2.followers[0]?, f.cancelled = false ∧ f.isDone = true := by decide +kernel
    have path := ((path_of_trace? traced).append (.cons opens (.nil w))).append
      (.cons stepped (path_of_trace? traced'))
    refine ⟨earlier, _, _, later, v, path, written, opening, rfl, started, alone,
      ⟨f, found, uncancelled, done⟩, ?_⟩
    have settles := settled_of_followed.1 .default earlier [] later _ _ v "r1" failingStream path opening
      rfl started alone
    simp only [only, arrived, List.append_nil] at settles
    obtain ⟨g, same, settles⟩ := settles (by decide)
    obtain rfl := Option.some.inj (same.symm.trans found)
    obtain ⟨base, -, -, settled⟩ := (settles uncancelled).2 done
    exact settled
  · obtain ⟨c, shown, silent, unhurried, -⟩ :=
      settled_of_followed.2 ["r1"] (fun _ => none) (fun _ => growing) .epoch "r1" rfl
    exact ⟨c, congrArg Replay.Output.out shown, silent, unhurried⟩

end Viewer

end Transcript
