import Transcript.Proofs.Viewer.Serving
import Transcript.Proofs.Viewer.Succession

/-! # A run that cannot be had

Starting clears the conversation before it asks for the stream of a run, opening only when there is no
stored run. Either way the viewer then shows a conversation with one message, the error, and follows
nothing: every follower was cancelled and is done (`failed_alike`). Nothing can keep a call from getting
there once the source of runs has no run for it (`exists_fails`).
-/

namespace Transcript

/-- The conversation of a run that cannot be had. -/
theorem Conversation.ingest_failure_beginRun (c : Conversation) (runId message : String) :
    (ingest (.failure message) (beginRun runId c).1).1 =
      { new c.settings with
        runId := some runId
        messages := #[.plain c.settings.defaultSource (.error message)]
        status := .error
        epoch := c.epoch + 1 } := rfl

namespace Viewer

variable {u v w : Viewer} {during : List Moment} {last : Moment} {runId : String} {call : Call}
  {progress : Progress} {error : DeliveryError}

/-- What the source of runs has answered a call that is about to show a failure. -/
theorem Underway.answered (under : Underway u during runId v call (.failing error)) :
    ∃ m ∈ during, call = .startRun runId ∧ m.Answers call (.stream (.error error)) ∨
      call = .openRun runId ∧ m.Answers call (.run (.error error)) := by
  obtain ⟨-, -, -, reached⟩ := under
  cases reached with
  | stopping before => simp [Progress.stopping?] at before
  | refused answered =>
    obtain ⟨m, member, answers⟩ := answered
    exact ⟨m, member, .inl ⟨rfl, answers⟩⟩
  | missed answered =>
    obtain ⟨m, member, answers⟩ := answered
    exact ⟨m, member, .inr ⟨rfl, answers⟩⟩

/-- A failure is shown in the conversation and nowhere else. -/
theorem fail_eq (v : Viewer) (call : Call) (error : DeliveryError) : (v.fail call error).1 =
    { v with conversation := (v.fail call error).1.conversation, serving := none } := by
  cases call <;> rfl

/-- Showing that a run cannot be had comes to the same, whether its conversation has begun or not. -/
theorem Underway.conversation_fail (under : Underway u during runId v call (.failing error))
    (alone : Alone during) :
    ∃ base, u.conversation.SameEpoch base ∧ (v.fail call error).1.conversation =
      (Conversation.ingest (.failure error.message) (Conversation.beginRun runId base).1).1 := by
  obtain ⟨-, -, -, reached⟩ := under
  generalize shown : v.conversation = c at reached
  cases reached with
  | stopping before => simp [Progress.stopping?] at before
  | refused _ begun =>
    obtain ⟨base, same, rfl⟩ := begun alone
    exact ⟨base, same, by rw [← shown]; rfl⟩
  | missed _ kept => exact ⟨c, kept alone, by rw [← shown]; rfl⟩

/-- A call fails in the segment in which it shows the failure. -/
theorem Underway.failing {segment : Segment} {effects : Effects}
    (under : Underway u during runId v call progress) (stepped : v.step segment = some (w, effects))
    (failed : effects.outcome = some (.failed error)) :
    progress = .failing error ∧ w = (v.fail call error).1.beginNext := by
  obtain ⟨x, ended, rfl⟩ := under.ended stepped failed
  cases ended with
  | started | opened => cases failed
  | failed =>
    cases failed
    exact ⟨rfl, rfl⟩

/-- Once a run cannot be had, every follower was cancelled and is done. -/
theorem Underway.cancelled (one : v.OneRunning) (orderly : v.Orderly)
    (under : Underway u during runId v call (.failing error)) {n : Nat} {f : Follower}
    (found : v.followers[n]? = some f) : f.cancelled = true ∧ f.isDone = true := by
  have current : v.current = none := orderly.stopped _ _ under.serving (by simp)
  refine ⟨?_, one.allDone_of_stopped under.serving (by simp) rfl n f found⟩
  by_contra uncancelled
  rw [orderly.alone n f found (Bool.not_eq_true _ ▸ uncancelled)] at current
  contradiction

/-! ## A failure can always be shown -/

/-- Whether a history leads on from a viewer without ending the call that is served or changing the
conversation from outside. -/
structure Advances (u : Viewer) (moments : List Moment) (v : Viewer) : Prop where
  path : u.Path moments v
  unfinished : ∀ m ∈ moments, m.effects.outcome = none
  alone : Alone moments

theorem Advances.append {first second : List Moment} (left : Advances u first v)
    (right : Advances v second w) : Advances u (first ++ second) w where
  path := left.path.append right.path
  unfinished := List.forall_mem_append.mpr ⟨left.unfinished, right.unfinished⟩
  alone := List.forall_mem_append.mpr ⟨left.alone, right.alone⟩

theorem advances_of_step {segment : Segment} {effects : Effects}
    (stepped : v.step segment = some (w, effects)) (unfinished : effects.outcome = none)
    (alone : segment.isWrite = false) : Advances v [⟨v, segment, effects⟩] w where
  path := .cons stepped (.nil w)
  unfinished := by simpa using unfinished
  alone := by simpa [Alone] using alone

theorem advances_of_serve (answer : Answer) {next : Progress} {effects : Effects}
    (serving : v.serving = some (call, progress))
    (served : v.serve call progress answer = some (w.proceed call next, effects))
    (unfinished : effects.outcome = none) :
    Advances v [⟨v, .serve answer, effects⟩] (w.proceed call next) := by
  refine advances_of_step ?_ unfinished rfl
  simp only [step, serving, served, Option.map_some]
  rfl

/-- A follower that was cancelled and is not done closes in its next turn. -/
theorem advances_of_cancelled {n : Nat} {f : Follower} (found : v.followers[n]? = some f)
    (cancelled : f.cancelled = true) (running : f.isDone = false) :
    ∃ moments, Advances v moments (v.modifyFollower n fun f => { f with phase := .closed }) := by
  have superseded : f.isSuperseded v.conversation = true := by
    simp [Follower.isSuperseded, cancelled]
  have closes : v.followNext n f = some (v.close n f) := by
    cases phase : f.phase with
    | receiving | delivering => simp only [followNext, phase, cancelled, superseded, if_true]
    | ending =>
      simp only [followNext, phase, superseded, if_true]
      rfl
    | closed | crashed => simp [Follower.isDone, phase] at running
  have stepped : v.step (.follow n) = some (v.close n f) := by simp only [step, found, closes]
  exact ⟨_, advances_of_step stepped rfl rfl⟩

/-- A call that waits for a follower that was cancelled need not wait for long. -/
theorem exists_advances_of_joining {n : Nat} {next : Progress}
    (serving : v.serving = some (call, .joining n))
    (cancelled : ∀ f, v.followers[n]? = some f → f.cancelled = true)
    (goesOn : ∀ v : Viewer, v.afterStop call = (v.proceed call next, {})) :
    ∃ moments w, Advances v moments w ∧ w.serving = some (call, next) := by
  have joined (v : Viewer) (done : v.followers[n]?.all Follower.isDone = true) :
      v.serve call (.joining n) .none = some (v.proceed call next, {}) := by
    simp only [serve, done, if_true, goesOn]
  cases done : v.followers[n]?.all Follower.isDone with
  | true => exact ⟨_, _, advances_of_serve .none serving (joined v done) rfl, rfl⟩
  | false =>
    obtain ⟨f, found, running⟩ : ∃ f, v.followers[n]? = some f ∧ f.isDone = false := by
      cases found : v.followers[n]? <;> simp_all
    obtain ⟨moments, closing⟩ := advances_of_cancelled found (cancelled f found) running
    have closed : (v.modifyFollower n fun f => { f with phase := .closed }).followers[n]?.all
        Follower.isDone = true := by
      simp [modifyFollower, found, Follower.isDone]
    exact ⟨_, _, closing.append (advances_of_serve .none serving (joined _ closed) rfl), rfl⟩

/-- A call for a run can always come to the point at which no stream is followed any more. -/
theorem exists_advances_stop (asks : call = .startRun runId ∨ call = .openRun runId)
    (turn : u.serving = some (call, .entered)) {next : Progress}
    (goesOn : ∀ v : Viewer, v.afterStop call = (v.proceed call next, {})) :
    ∃ moments v, Advances u moments v ∧ v.serving = some (call, next) := by
  cases current : u.current with
  | none =>
    have entered : u.serve call .entered .none = some (u.proceed call next, {}) := by
      simp only [serve, enter_eq_stop asks, stop, current, goesOn]
    exact ⟨_, _, advances_of_serve .none turn entered rfl, rfl⟩
  | some index =>
    have entered : u.serve call .entered .none = some ((u.unfollow index).proceed call
        (.aborting index), { abort := u.followers[index]?.map Follower.runId }) := by
      simp only [serve, enter_eq_stop asks, stop, current]
      rfl
    have aborting := advances_of_serve .none turn entered rfl
    have joining : Advances ((u.unfollow index).proceed call (.aborting index)) _
        ((u.unfollow index).proceed call (.joining index)) :=
      advances_of_serve .none rfl rfl rfl
    have cancelled : ∀ f, ((u.unfollow index).proceed call (.joining index)).followers[index]? =
        some f → f.cancelled = true := by
      intro f found
      obtain ⟨old, -, rfl⟩ : ∃ old, u.followers[index]? = some old ∧
          { old with cancelled := true } = f := by
        simpa [unfollow, modifyFollower, proceed] using found
      rfl
    obtain ⟨moments, v, joins, there⟩ := exists_advances_of_joining rfl cancelled goesOn
    exact ⟨_, v, (aborting.append joining).append joins, there⟩

/-- How a call for a run whose turn came in `u` is over in the last of these moments, when its run cannot
be had. -/
structure Fails (u : Viewer) (during : List Moment) (last : Moment) (error : DeliveryError)
    (v : Viewer) : Prop where
  path : u.Path (during ++ [last]) v
  unfinished : ∀ m ∈ during, m.effects.outcome = none
  failed : last.effects.outcome = some (.failed error)

/-- Wherever a call for a run has its turn, it can fail. -/
theorem exists_fails (asks : call = .startRun runId ∨ call = .openRun runId)
    (turn : u.serving = some (call, .entered)) (error : DeliveryError) :
    ∃ during last v, Fails u during last error v ∧ Alone (during ++ [last]) := by
  obtain ⟨during, w, advances, serving⟩ : ∃ moments w, Advances u moments w ∧
      w.serving = some (call, .failing error) := by
    obtain rfl | rfl := asks
    · obtain ⟨first, v, stops, clearing⟩ := exists_advances_stop (.inl rfl) turn fun _ => rfl
      let begun := (Conversation.beginRun runId v.conversation).1
      let starting : Viewer := { v with
        conversation := begun
        serving := some (.startRun runId, .starting begun.epoch) }
      have begins : Advances v _ starting := advances_of_serve .none clearing rfl rfl
      have refused : Advances starting _ (starting.proceed (.startRun runId) (.failing error)) :=
        advances_of_serve (.stream (.error error)) rfl rfl rfl
      exact ⟨_, _, (stops.append begins).append refused, rfl⟩
    · obtain ⟨first, v, stops, fetching⟩ := exists_advances_stop (.inr rfl) turn fun _ => rfl
      exact ⟨_, _, stops.append
        (advances_of_serve (.run (.error error)) fetching rfl rfl), rfl⟩
  have stepped : w.step (.serve .none) = some ((w.fail call error).1.beginNext, (w.fail call error).2) := by
    simp only [step, serving, serve, Option.map_some]
  refine ⟨during, _, _,
    ⟨advances.path.append (.cons stepped (.nil _)), advances.unfinished, rfl⟩, ?_⟩
  exact List.forall_mem_append.mpr ⟨advances.alone, by simp [Segment.isWrite]⟩

/-! ## What a failure leaves -/

/-- A run that cannot be had leaves the same, whether it was to be started or opened, and whatever was
shown before: a conversation with one message, the error, from the source that is set as the default, with
the epoch after the one in which the call had its turn, if only the tasks of the viewer touch it meanwhile;
and in any case the session that there was, and nothing followed. The source of runs has answered the call
with this error. Every follower was cancelled and is done; one that did not break off has said, before the
call was over, that its stream is closed. And the call can always be brought to that end. -/
theorem failed_alike (settings : Settings) {earlier : List Moment} {u : Viewer} {call : Call}
    {runId : String} (path : (new settings).Path earlier u) (turn : u.serving = some (call, .entered))
    (asks : call = .startRun runId ∨ call = .openRun runId) (error : DeliveryError) :
    (∃ during last v, Fails u during last error v ∧ Alone (during ++ [last])) ∧
    (Alone earlier → u.conversation.settings = settings) ∧
    ∀ during last v, Fails u during last error v →
      (Alone (during ++ [last]) → v.conversation =
        { Conversation.new u.conversation.settings with
          runId := some runId
          messages := #[.plain u.conversation.settings.defaultSource (.error error.message)]
          status := .error
          epoch := u.conversation.epoch + 1 }) ∧
      v.session = u.session ∧ v.current = none ∧
      (∃ m ∈ during, call = .startRun runId ∧ m.Answers call (.stream (.error error)) ∨
        call = .openRun runId ∧ m.Answers call (.run (.error error))) ∧
      ∀ n f, v.followers[n]? = some f → f.cancelled = true ∧
        (f.phase = .crashed ∨ f.phase = .closed ∧ ∃ m ∈ earlier ++ during,
          m.segment = .follow n ∧ m.effects.notices = [.streamClosed f.runId]) := by
  refine ⟨exists_fails asks turn error,
    fun alone => (steady_of_path (steady_new settings) path alone).settings_eq, ?_⟩
  rintro during ⟨w, segment, effects⟩ v ⟨serves, unfinished, failed⟩
  obtain ⟨w', before, ends⟩ := Path.append_iff.mp serves
  cases ends with
  | cons stepped ends =>
    cases ends
    obtain ⟨one, progress, under⟩ := underway_of_path (oneRunning_of_path (oneRunning_new settings) path)
      (underway_entered asks turn) before unfinished
    obtain ⟨rfl, rfl⟩ := under.failing stepped failed
    have orderly := orderly_of_path (orderly_of_path (orderly_new settings) path) before
    rw [beginNext_eq, fail_eq]
    refine ⟨?shown, under.session_eq, one.stopped _ _ under.serving (by simp), under.answered, ?followers⟩
    case shown =>
      intro alone
      obtain ⟨base, same, shown⟩ := under.conversation_fail alone.of_concat.1
      rw [shown, Conversation.ingest_failure_beginRun, same.settings_eq, same.epoch_eq]
    case followers =>
      intro n f found
      obtain ⟨cancelled, done⟩ := under.cancelled one orderly found
      refine ⟨cancelled, ?_⟩
      obtain closed | crashed := f.isDone_iff.mp done
      · exact .inr ⟨closed, told_of_closed (path.append before) found closed⟩
      · exact .inl crashed

/-- A run is followed, and then another one is to be opened. -/
def followedBefore (stream : Stream) : List Segment :=
  [.call (.startRun "r1"), .serve .none, .serve .none, .serve (.stream (.ok stream)),
    .call (.openRun "r2")]

/-- The stream that is followed is stopped, and there is no stored run. -/
def missing (closing : List Segment) : List Segment :=
  [.serve .none, .serve .none] ++ closing ++ [.serve .none, .serve (.run (.error (.runNotFound "r2")))]

theorem failed_alike_followed :
    ∃ earlier u during last v, (new .default).Path earlier u ∧
      u.serving = some (.openRun "r2", .entered) ∧ (∃ f ∈ u.followers, f.isDone = false) ∧
      Fails u during last (.runNotFound "r2") v ∧
      v.conversation.messages = #[.plain "assistant" (.error "Run not found: r2")] ∧
      v.conversation.epoch = 2 ∧ v.current = none ∧
      ∃ m ∈ earlier ++ during, m.effects.notices = [.streamClosed "r1"] := by
  obtain ⟨⟨earlier, u⟩, traced, ⟨during, w⟩, traced', ⟨v, effects⟩, stepped, turn, running, unfinished,
      failed, alone, settings, epoch, f, found, runId, closed⟩ :
      ∃ first ∈ (new .default).trace? (followedBefore ⟨[], true⟩),
        ∃ next ∈ first.2.trace? (missing [.follow 0]), ∃ last ∈ next.2.step (.serve .none),
        first.2.serving = some (.openRun "r2", .entered) ∧
        (∃ f ∈ first.2.followers, f.isDone = false) ∧
        (∀ m ∈ next.1, m.effects.outcome = none) ∧
        last.2.outcome = some (.failed (.runNotFound "r2")) ∧
        (∀ m ∈ next.1 ++ [⟨next.2, .serve .none, last.2⟩], m.segment.isWrite = false) ∧
        first.2.conversation.settings = .default ∧ first.2.conversation.epoch = 1 ∧
        ∃ f ∈ last.1.followers[0]?, f.runId = "r1" ∧ f.phase = .closed := by decide +kernel
  have path := path_of_trace? traced
  have fails : Fails u during ⟨w, .serve .none, effects⟩ (.runNotFound "r2") v :=
    ⟨(path_of_trace? traced').append (.cons stepped (.nil v)), unfinished, failed⟩
  obtain ⟨shown, -, current, -, followers⟩ :=
    (failed_alike .default path turn (.inr rfl) _).2.2 during _ v fails
  obtain ⟨-, crashed | ⟨-, m, member, -, told⟩⟩ := followers 0 f found
  · rw [closed] at crashed
    contradiction
  · refine ⟨earlier, u, during, _, v, path, turn, running, fails, ?_, ?_, current, m, member, runId ▸ told⟩
    · rw [shown alone, settings]
      rfl
    · rw [shown alone, epoch]

/-- The stream of a run that breaks off is never made known as closed, also if another run that is opened
then cannot be had. -/
theorem unclosed_of_failed :
    ∃ earlier u during last v, (new .default).Path earlier u ∧
      u.serving = some (.openRun "r2", .entered) ∧ Fails u during last (.runNotFound "r2") v ∧
      Alone (during ++ [last]) ∧ (∃ f ∈ u.followers, f.runId = "r1") ∧
      ∀ m ∈ earlier ++ during ++ [last], ∀ runId, .streamClosed runId ∉ m.effects.notices := by
  obtain ⟨⟨earlier, u⟩, traced, ⟨during, w⟩, traced', ⟨v, effects⟩, stepped, turn, followed, unfinished,
      failed, alone, silent⟩ :
      ∃ first ∈ (new .default).trace? (followedBefore ⟨[.crash], true⟩ ++ [.follow 0]),
        ∃ next ∈ first.2.trace? (missing []), ∃ last ∈ next.2.step (.serve .none),
        first.2.serving = some (.openRun "r2", .entered) ∧
        (∃ f ∈ first.2.followers, f.runId = "r1") ∧
        (∀ m ∈ next.1, m.effects.outcome = none) ∧
        last.2.outcome = some (.failed (.runNotFound "r2")) ∧
        (∀ m ∈ next.1 ++ [⟨next.2, .serve .none, last.2⟩], m.segment.isWrite = false) ∧
        ∀ m ∈ first.1 ++ next.1 ++ [⟨next.2, .serve .none, last.2⟩], ∀ notice ∈ m.effects.notices,
          notice.kindName ≠ "stream_closed" := by decide +kernel
  refine ⟨earlier, u, during, _, v, path_of_trace? traced, turn,
    ⟨(path_of_trace? traced').append (.cons stepped (.nil v)), unfinished, failed⟩, alone, followed, ?_⟩
  intro m member runId closed
  exact silent m member _ closed rfl

end Viewer

end Transcript
