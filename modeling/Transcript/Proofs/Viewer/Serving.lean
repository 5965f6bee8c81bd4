import Transcript.Proofs.Viewer.Brackets

/-! # A call for a run, from its turn to its end

A call that starts or opens a run stops the stream that is followed, asks the source of runs, and shows
what it is answered. Where it stands tells what it was answered so far and what has become of the
conversation (`Reached`): until it has begun its run, nothing has let the conversation start again, and
from then on no follower is left that could tell the conversation anything. Every segment that does not
end the call keeps that (`Underway.step`), and so does any number of them (`underway_of_path`).
-/

namespace Transcript

/-- Whether a call that stands here waits for the source of runs. -/
def Progress.isAsking : Progress → Bool
  | .starting _ | .fetching => true
  | .entered | .aborting _ | .joining _ | .clearing | .showing _ | .failing _ => false

/-- Whether the source of runs gives a call this answer in this moment. -/
def Moment.Answers (m : Moment) (call : Call) (answer : Answer) : Prop :=
  m.segment = .serve answer ∧
    ∃ progress, m.viewer.serving = some (call, progress) ∧ progress.isAsking = true

/-- Whether a conversation has not started again since it was another one. -/
structure Conversation.SameEpoch (c d : Conversation) : Prop where
  settings_eq : d.settings = c.settings
  epoch_eq : d.epoch = c.epoch

namespace Conversation.SameEpoch

variable {c d e : Conversation}

theorem refl (c : Conversation) : c.SameEpoch c := ⟨rfl, rfl⟩

theorem trans (first : c.SameEpoch d) (second : d.SameEpoch e) : c.SameEpoch e :=
  ⟨second.settings_eq.trans first.settings_eq, second.epoch_eq.trans first.epoch_eq⟩

theorem input (x : Input) (c : Conversation) : c.SameEpoch (x.update c).1 :=
  ⟨settings_input x c, epoch_input x c⟩

end Conversation.SameEpoch

namespace Viewer

/-- Whether only the tasks of the viewer touch the conversation. -/
def Alone (moments : List Moment) : Prop := ∀ m ∈ moments, m.segment.isWrite = false

theorem Alone.of_concat {moments : List Moment} {m : Moment} (alone : Alone (moments ++ [m])) :
    Alone moments ∧ m.segment.isWrite = false :=
  ⟨fun _ member => alone _ (List.mem_append_left _ member), alone m (by simp)⟩

/-- Where a call for a run can stand since its turn came in `u`, with what it was answered and the
conversation that there is by then. -/
inductive Reached (u : Viewer) (during : List Moment) (runId : String) :
    Call → Progress → Conversation → Prop
  | stopping {call : Call} {progress : Progress} {c : Conversation}
      (before : progress = .entered ∨ progress.stopping?.isSome)
      (kept : Alone during → u.conversation.SameEpoch c) : Reached u during runId call progress c
  | clearing {c : Conversation} (kept : Alone during → u.conversation.SameEpoch c) :
      Reached u during runId (.startRun runId) .clearing c
  /-- The run has begun, and its stream is waited for. -/
  | starting {epoch : Nat} {c : Conversation}
      (begun : Alone during → ∃ base, u.conversation.SameEpoch base ∧
        c = (Conversation.beginRun runId base).1) :
      Reached u during runId (.startRun runId) (.starting epoch) c
  /-- There is no stream. -/
  | refused {error : DeliveryError} {c : Conversation}
      (answered : ∃ m ∈ during, m.Answers (.startRun runId) (.stream (.error error)))
      (begun : Alone during → ∃ base, u.conversation.SameEpoch base ∧
        c = (Conversation.beginRun runId base).1) :
      Reached u during runId (.startRun runId) (.failing error) c
  | fetching {c : Conversation} (kept : Alone during → u.conversation.SameEpoch c) :
      Reached u during runId (.openRun runId) .fetching c
  /-- There is no stored run. -/
  | missed {error : DeliveryError} {c : Conversation}
      (answered : ∃ m ∈ during, m.Answers (.openRun runId) (.run (.error error)))
      (kept : Alone during → u.conversation.SameEpoch c) :
      Reached u during runId (.openRun runId) (.failing error) c
  /-- The stored run is there. -/
  | fetched {run : Run} {c : Conversation}
      (answered : ∃ m ∈ during, m.Answers (.openRun runId) (.run (.ok run))) :
      Reached u during runId (.openRun runId) (.showing run) c

/-- How far a call for a run has come since its turn came in `u`. -/
structure Underway (u : Viewer) (during : List Moment) (runId : String) (v : Viewer) (call : Call)
    (progress : Progress) : Prop where
  asks : call = .startRun runId ∨ call = .openRun runId
  serving : v.serving = some (call, progress)
  session_eq : v.session = u.session
  reached : Reached u during runId call progress v.conversation

variable {u v w : Viewer} {during : List Moment} {runId : String} {call : Call} {progress : Progress}
  {segment : Segment} {effects : Effects}

theorem underway_entered (asks : call = .startRun runId ∨ call = .openRun runId)
    (turn : u.serving = some (call, .entered)) : Underway u [] runId u call .entered :=
  ⟨asks, turn, rfl, .stopping (.inl rfl) fun _ => .refl _⟩

/-! ## Others have their turns -/

/-- What a turn of others leaves of a call that is being served: it goes on where it stands, and unless
the conversation is changed from outside, it is only told of the stream that is followed. -/
structure Waits (v : Viewer) (segment : Segment) (w : Viewer) : Prop where
  serving_eq : w.serving = v.serving
  session_eq : w.session = v.session
  sameEpoch : segment.isWrite = false → v.conversation.SameEpoch w.conversation
  still : segment.isWrite = false → v.AllDone → w.conversation = v.conversation

theorem beginNext_of_serving {turn : Call × Progress} (serving : v.serving = some turn) :
    v.beginNext = v := by
  simp only [beginNext, serving]

theorem waits_of_step (serving : v.serving = some (call, progress))
    (stepped : v.step segment = some (w, effects)) (other : ∀ answer, segment ≠ .serve answer) :
    Waits v segment w := by
  cases segment with
  | serve answer => exact absurd rfl (other answer)
  | call call' =>
    cases stepped
    have busy : ({ v with waiting := v.waiting ++ [call'] } : Viewer).beginNext =
        { v with waiting := v.waiting ++ [call'] } := beginNext_of_serving serving
    rw [busy]
    exact ⟨rfl, rfl, fun _ => .refl _, fun _ _ => rfl⟩
  | follow index =>
    obtain ⟨f, found, followed⟩ := followed_of_step stepped
    have running : ¬ v.AllDone := by
      intro done
      have finished := done index f found
      rw [followed.running] at finished
      contradiction
    cases followed with
    | givesUp | exhausts | reads | breaks =>
      exact ⟨rfl, rfl, fun _ => .refl _, fun _ _ => rfl⟩
    | delivers => exact ⟨rfl, rfl, fun _ => .input (.frame _) _, fun _ done => absurd done running⟩
    | settles => exact ⟨rfl, rfl, fun _ => .input .ended _, fun _ done => absurd done running⟩
  | arrive index arrival =>
    obtain ⟨f, -, -, -, rfl⟩ := arrived_of_step stepped
    exact ⟨rfl, rfl, fun _ => .refl _, fun _ _ => rfl⟩
  | complete index | cancel index =>
    cases stepped
    exact ⟨rfl, rfl, fun _ => .refl _, fun _ _ => rfl⟩
  | write update =>
    cases stepped
    exact ⟨rfl, rfl, by simp [Segment.isWrite], by simp [Segment.isWrite]⟩

theorem Reached.later (reached : Reached u during runId call progress v.conversation)
    (waits : Waits v segment w)
    (done : progress ≠ .entered → progress.stopping? = none → v.AllDone) :
    Reached u (during ++ [⟨v, segment, effects⟩]) runId call progress w.conversation := by
  have kept (before : Alone during → u.conversation.SameEpoch v.conversation)
      (alone : Alone (during ++ [⟨v, segment, effects⟩])) :
      u.conversation.SameEpoch w.conversation :=
    (before alone.of_concat.1).trans (waits.sameEpoch alone.of_concat.2)
  have answered {answer : Answer} (before : ∃ m ∈ during, m.Answers call answer) :
      ∃ m ∈ during ++ [⟨v, segment, effects⟩], m.Answers call answer := by
    obtain ⟨m, member, answers⟩ := before
    exact ⟨m, List.mem_append_left _ member, answers⟩
  -- Once the run has begun nobody is left who tells the conversation anything.
  have begun (entered : progress ≠ .entered) (stopped : progress.stopping? = none)
      (before : Alone during → ∃ base, u.conversation.SameEpoch base ∧
        v.conversation = (Conversation.beginRun runId base).1)
      (alone : Alone (during ++ [⟨v, segment, effects⟩])) :
      ∃ base, u.conversation.SameEpoch base ∧
        w.conversation = (Conversation.beginRun runId base).1 := by
    rw [waits.still alone.of_concat.2 (done entered stopped)]
    exact before alone.of_concat.1
  cases reached with
  | stopping before same => exact .stopping before (kept same)
  | clearing same => exact .clearing (kept same)
  | starting base => exact .starting (begun (by simp) rfl base)
  | refused refusal base => exact .refused (answered refusal) (begun (by simp) rfl base)
  | fetching same => exact .fetching (kept same)
  | missed miss same => exact .missed (answered miss) (kept same)
  | fetched hit => exact .fetched (answered hit)

/-! ## The call has its turn -/

/-- Once no stream is followed any more a run is begun or fetched. -/
theorem reached_afterStop (asks : call = .startRun runId ∨ call = .openRun runId)
    (kept : Alone during → u.conversation.SameEpoch v.conversation) :
    ∃ next, v.afterStop call = (v.proceed call next, {}) ∧
      Reached u during runId call next v.conversation := by
  obtain rfl | rfl := asks
  · exact ⟨.clearing, rfl, .clearing kept⟩
  · exact ⟨.fetching, rfl, .fetching kept⟩

theorem enter_eq_stop (asks : call = .startRun runId ∨ call = .openRun runId) :
    v.enter call = v.stop call := by
  obtain rfl | rfl := asks <;> rfl

/-- A segment of the call that does not end it takes it to its next place. -/
theorem Underway.serve {answer : Answer} (under : Underway u during runId v call progress)
    (served : v.serve call progress answer = some (w, effects)) (unfinished : effects.outcome = none) :
    ∃ next, Underway u (during ++ [⟨v, .serve answer, effects⟩]) runId w call next := by
  obtain ⟨asks, serving, session, reached⟩ := under
  have earlier (before : Alone during → u.conversation.SameEpoch v.conversation)
      (alone : Alone (during ++ [⟨v, .serve answer, effects⟩])) :
      u.conversation.SameEpoch v.conversation := before alone.of_concat.1
  have answers (asking : progress.isAsking = true) :
      ∃ m ∈ during ++ [⟨v, .serve answer, effects⟩], m.Answers call answer :=
    ⟨⟨v, .serve answer, effects⟩, by simp, rfl, progress, serving, asking⟩
  cases reached with
  | stopping before kept =>
    obtain ⟨next, goesOn, reached⟩ := reached_afterStop (v := v) asks (earlier kept)
    cases progress with
    | entered =>
      obtain entered := Option.some.inj served
      rw [enter_eq_stop asks, stop] at entered
      split at entered
      · cases goesOn.symm.trans entered
        exact ⟨next, asks, rfl, session, reached⟩
      next index _ =>
        cases entered
        exact ⟨.aborting index, asks, rfl, session, .stopping (.inr rfl) (earlier kept)⟩
    | aborting index =>
      cases served
      exact ⟨.joining index, asks, rfl, session, .stopping (.inr rfl) (earlier kept)⟩
    | joining index =>
      simp only [Viewer.serve, Option.ite_none_right_eq_some, Option.some.injEq] at served
      cases goesOn.symm.trans served.2
      exact ⟨next, asks, rfl, session, reached⟩
    | clearing | starting | fetching | showing | failing => simp [Progress.stopping?] at before
  | clearing kept =>
    cases served
    exact ⟨_, asks, rfl, session, .starting fun alone => ⟨v.conversation, earlier kept alone, rfl⟩⟩
  | starting begun =>
    cases answer with
    | stream result =>
      cases result with
      | ok stream =>
        cases served
        contradiction
      | error error =>
        cases served
        exact ⟨_, asks, rfl, session, .refused (answers rfl) fun alone => begun alone.of_concat.1⟩
    | none | run => contradiction
  | fetching kept =>
    cases answer with
    | run result =>
      cases result with
      | ok run =>
        cases served
        exact ⟨_, asks, rfl, session, .fetched (answers rfl)⟩
      | error error =>
        cases served
        exact ⟨_, asks, rfl, session, .missed (answers rfl) (earlier kept)⟩
    | none | stream => contradiction
  | refused | missed | fetched =>
    cases served
    contradiction

theorem Underway.step (one : v.OneRunning) (under : Underway u during runId v call progress)
    (stepped : v.step segment = some (w, effects)) (unfinished : effects.outcome = none) :
    ∃ next, Underway u (during ++ [⟨v, segment, effects⟩]) runId w call next := by
  by_cases own : ∃ answer, segment = .serve answer
  · obtain ⟨answer, rfl⟩ := own
    obtain ⟨_, _, x, serving, served, rfl⟩ := serve_of_step stepped
    cases under.serving.symm.trans serving
    obtain ⟨next, after⟩ := under.serve served unfinished
    exact ⟨next, (beginNext_of_serving after.serving).symm ▸ after⟩
  · have waits := waits_of_step under.serving stepped (not_exists.mp own)
    exact ⟨progress, under.asks, waits.serving_eq.trans under.serving,
      waits.session_eq.trans under.session_eq,
      under.reached.later waits (one.allDone_of_stopped under.serving)⟩

/-- As long as a call for a run is not over, it is under way. -/
theorem underway_of_path {moments : List Moment} (one : v.OneRunning)
    (under : Underway u during runId v call progress) (path : v.Path moments w)
    (unfinished : ∀ m ∈ moments, m.effects.outcome = none) :
    w.OneRunning ∧ ∃ next, Underway u (during ++ moments) runId w call next := by
  induction path generalizing during progress with
  | nil => exact ⟨one, progress, by rwa [List.append_nil]⟩
  | cons stepped path ih =>
    obtain ⟨first, later⟩ := List.forall_mem_cons.mp unfinished
    obtain ⟨next, under⟩ := under.step one stepped first
    obtain ⟨one, last, under⟩ := ih (oneRunning_step one stepped) under later
    exact ⟨one, last, by simpa using under⟩

/-! ## The call is over -/

/-- Only a segment of a call ends one. -/
theorem exists_serve_of_outcome {outcome : Outcome} (stepped : v.step segment = some (w, effects))
    (finished : effects.outcome = some outcome) : ∃ answer, segment = .serve answer := by
  cases segment with
  | serve answer => exact ⟨answer, rfl⟩
  | follow index =>
    obtain ⟨f, found, followed⟩ := followNext_of_step stepped
    obtain ⟨_, -, -, unfinished, -⟩ := tells_of_followNext found followed
    rw [unfinished] at finished
    contradiction
  | arrive index arrival =>
    obtain ⟨f, -, -, rfl, -⟩ := arrived_of_step stepped
    contradiction
  | call | complete | cancel | write =>
    cases stepped
    contradiction

/-- A call that stops the stream that is followed is not over. -/
theorem outcome_of_stopping {answer : Answer} (asks : call = .startRun runId ∨ call = .openRun runId)
    (before : progress = .entered ∨ progress.stopping?.isSome)
    (served : v.serve call progress answer = some (w, effects)) : effects.outcome = none := by
  have goesOn : (v.afterStop call).2.outcome = none := by obtain rfl | rfl := asks <;> rfl
  cases progress with
  | entered =>
    obtain entered := Option.some.inj served
    rw [enter_eq_stop asks, stop] at entered
    split at entered
    · exact congrArg (fun next => next.2.outcome) entered ▸ goesOn
    · cases entered
      rfl
  | aborting index =>
    cases served
    rfl
  | joining index =>
    simp only [Viewer.serve, Option.ite_none_right_eq_some, Option.some.injEq] at served
    exact congrArg (fun next => next.2.outcome) served.2 ▸ goesOn
  | clearing | starting | fetching | showing | failing => simp [Progress.stopping?] at before

/-- The turn of the next call leaves what is shown and followed as it is. -/
theorem beginNext_eq (v : Viewer) : v.beginNext =
    { v with serving := v.beginNext.serving, waiting := v.beginNext.waiting } := by
  unfold beginNext
  split <;> rfl

/-- How a call for a run ends, by where it stands. -/
inductive Ended (v : Viewer) (runId : String) : Call → Progress → Viewer → Effects → Prop
  | started {epoch : Nat} {stream : Stream} : Ended v runId (.startRun runId) (.starting epoch)
      (v.follow runId epoch stream).1 (v.follow runId epoch stream).2
  | failed {call : Call} {error : DeliveryError} :
      Ended v runId call (.failing error) (v.fail call error).1 (v.fail call error).2
  | opened {run : Run} : Ended v runId (.openRun runId) (.showing run)
      { v with conversation := (Conversation.load run v.conversation).1 }.finish
      { changes := [.loaded run.id], notices := [.runOpened runId], outcome := some .opened }

theorem Underway.ended {outcome : Outcome} (under : Underway u during runId v call progress)
    (stepped : v.step segment = some (w, effects)) (finished : effects.outcome = some outcome) :
    ∃ x, Ended v runId call progress x effects ∧ w = x.beginNext := by
  obtain ⟨answer, rfl⟩ := exists_serve_of_outcome stepped finished
  obtain ⟨_, _, x, serving, served, rfl⟩ := serve_of_step stepped
  cases under.serving.symm.trans serving
  refine ⟨x, ?_, rfl⟩
  cases under.reached with
  | stopping before =>
    rw [outcome_of_stopping under.asks before served] at finished
    contradiction
  | starting =>
    cases answer with
    | stream result =>
      cases result with
      | ok stream =>
        cases served
        exact .started
      | error error =>
        cases served
        contradiction
    | none | run => contradiction
  | refused | missed =>
    cases served
    exact .failed
  | fetching =>
    cases answer with
    | run result => cases result <;> (cases served; contradiction)
    | none | stream => contradiction
  | fetched =>
    cases served
    exact .opened
  | clearing =>
    cases served
    contradiction

end Viewer

end Transcript
