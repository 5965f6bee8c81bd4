import Transcript.Proofs.Viewer.Running

/-! # What is made known of a stream

A notice says that a run is started, and another one that its stream is closed. Between the two nothing
is made known but that sessions are forgotten which are not the current one (`Bracket`), whatever the
order of turns, since a call has nothing else to make known until no follower is running (`Tells`). A
follower that breaks off makes nothing known, so its bracket stays open.
-/

namespace Transcript

/-- Whether the segment completes a call, and not with a failure. -/
def Effects.succeeds (e : Effects) : Prop :=
  ∃ outcome, e.outcome = some outcome ∧ ∀ error, outcome ≠ .failed error

/-- Whether a notice does not concern the stream that is followed: a session is forgotten that is not
the current one. -/
def Notice.IsAside (session : Option Session) (notice : Notice) : Prop :=
  ∃ sessionId, notice = .sessionDeleted sessionId ∧ session.any (fun s => s.id = sessionId) = false

/-- Whether all that a moment makes known does not concern the stream that is followed. -/
def Moment.IsAside (m : Moment) : Prop :=
  ∀ notice ∈ m.effects.notices, notice.IsAside m.viewer.session

namespace Viewer

/-! ## What a segment makes known -/

/-- What a segment of a call makes known. -/
inductive Tells (v : Viewer) (progress : Progress) (effects : Effects) : Prop
  | nothing (silent : effects.notices = [])
  /-- A session is forgotten that is not the current one. -/
  | forgets (aside : ∀ notice ∈ effects.notices, notice.IsAside v.session)
      (succeeds : effects.succeeds)
  /-- What is shown changes, with no stream followed any more. -/
  | replaces (notice : Notice) (told : effects.notices = [notice])
      (other : ∀ runId, notice ≠ .streamClosed runId) (entered : progress ≠ .entered)
      (stopped : progress.stopping? = none) (succeeds : effects.succeeds)

variable {v u : Viewer} {call : Call} {progress : Progress} {answer : Answer} {effects : Effects}

theorem notices_afterStop (v : Viewer) (call : Call) : (v.afterStop call).2.notices = [] := by
  cases call <;> rfl

theorem notices_stop (v : Viewer) (call : Call) : (v.stop call).2.notices = [] := by
  unfold stop
  split
  · exact notices_afterStop v call
  · rfl

theorem tells_enter : Tells v .entered (v.enter call).2 := by
  cases call with
  | deleteSession sessionId =>
    simp only [enter]
    split
    · exact .nothing (notices_stop v _)
    next other =>
      refine .forgets ?_ ⟨.done, rfl, by simp⟩
      intro notice member
      exact ⟨sessionId, List.mem_singleton.mp member, Bool.eq_false_iff.mpr other⟩
  | currentSession | followed => exact .nothing rfl
  | startRun | openRun | cancel | reset | newSession => exact .nothing (notices_stop v _)

theorem tells_clear : Tells v .clearing (v.clear call).2 := by
  cases call with
  | newSession session =>
    exact .replaces _ rfl (by simp) (by simp) rfl ⟨.done, rfl, by simp⟩
  | deleteSession sessionId =>
    exact .replaces _ rfl (by simp) (by simp) rfl ⟨.done, rfl, by simp⟩
  | startRun | openRun | cancel | reset | currentSession | followed => exact .nothing rfl

theorem tells_of_serve {next : Viewer × Effects}
    (served : v.serve call progress answer = some next) : Tells v progress next.2 := by
  cases progress with
  | entered =>
    obtain rfl := Option.some.inj served
    exact tells_enter
  | aborting index =>
    obtain rfl := Option.some.inj served
    exact .nothing rfl
  | joining index =>
    simp only [serve, Option.ite_none_right_eq_some, Option.some.injEq] at served
    obtain ⟨-, rfl⟩ := served
    exact .nothing (notices_afterStop v call)
  | clearing =>
    obtain rfl := Option.some.inj served
    exact tells_clear
  | starting epoch =>
    cases answer with
    | stream result =>
      simp only [serve] at served
      split at served
      next runId stream =>
        obtain rfl := Option.some.inj served
        exact .replaces _ rfl (by simp) (by simp) rfl ⟨.started, rfl, by simp⟩
      next error =>
        obtain rfl := Option.some.inj served
        exact .nothing rfl
      next => contradiction
    | none | run => contradiction
  | fetching =>
    cases answer with
    | run result =>
      cases result with
      | ok run | error error =>
        obtain rfl := Option.some.inj served
        exact .nothing rfl
    | none | stream => contradiction
  | showing run =>
    simp only [serve] at served
    split at served
    · obtain rfl := Option.some.inj served
      exact .replaces _ rfl (by simp) (by simp) rfl ⟨.opened, rfl, by simp⟩
    · contradiction
  | failing error =>
    obtain rfl := Option.some.inj served
    exact .nothing rfl

/-- What a segment of a follower makes known is that it is done; if it breaks off it makes nothing
known. -/
theorem tells_of_followNext {index : Nat} {f : Follower} (found : v.followers[index]? = some f)
    (followed : v.followNext index f = some (u, effects)) :
    ∃ g, u.followers[index]? = some g ∧ g.runId = f.runId ∧ effects.outcome = none ∧
      (g.phase = .closed ∧ effects.notices = [.streamClosed f.runId] ∨
        effects.notices = [] ∧
          (g.isDone = false ∨ g.phase = .crashed ∧ f.stream.queue.head? = some .crash)) := by
  have changed (w : Viewer) (same : w.followers = v.followers) (g : Follower → Follower) :
      (w.modifyFollower index g).followers[index]? = some (g f) := by
    simp [modifyFollower, same, found]
  cases phase : f.phase with
  | receiving =>
    simp only [followNext, phase] at followed
    split at followed
    next =>
      cases followed
      exact ⟨_, changed v rfl _, rfl, rfl, .inl ⟨rfl, rfl⟩⟩
    next =>
      split at followed
      next =>
        simp only [Option.ite_none_left_eq_some, Option.some.injEq] at followed
        cases followed.2
        exact ⟨_, changed v rfl _, rfl, rfl, .inr ⟨rfl, .inl rfl⟩⟩
      next arrival queue next =>
        cases followed
        refine ⟨_, changed v rfl _, rfl, rfl, .inr ⟨rfl, ?_⟩⟩
        cases arrival with
        | frame | failure => exact .inl rfl
        | crash => exact .inr ⟨rfl, by rw [next]; rfl⟩
  | delivering frame =>
    simp only [followNext, phase] at followed
    split at followed
    next =>
      cases followed
      exact ⟨_, changed v rfl _, rfl, rfl, .inl ⟨rfl, rfl⟩⟩
    next =>
      split at followed
      next =>
        cases followed
        exact ⟨_, changed _ rfl _, rfl, rfl, .inl ⟨rfl, rfl⟩⟩
      next =>
        cases followed
        exact ⟨_, changed _ rfl _, rfl, rfl, .inr ⟨rfl, .inl rfl⟩⟩
  | ending =>
    simp only [followNext, phase] at followed
    cases followed
    refine ⟨_, changed _ ?_ _, rfl, rfl, .inl ⟨rfl, rfl⟩⟩
    split <;> rfl
  | closed | crashed => simp only [followNext, phase, reduceCtorEq] at followed

/-! ## From the start of a stream to its end -/

variable {n : Nat} {f : Follower} {segment : Segment}

/-- How a follower ends: it is closed, and says so, or it breaks off at what has arrived. -/
def Ends (n : Nat) (runId : String) (last : Moment) (phase : Follower.Phase) : Prop :=
  last.segment = .follow n ∧
    (phase = .closed ∧ last.effects.notices = [.streamClosed runId] ∨
      phase = .crashed ∧ last.effects.notices = [] ∧
        ∃ f, last.viewer.followers[n]? = some f ∧ f.stream.queue.head? = some .crash)

/-- While a follower is running, the turns of others make nothing known that concerns its stream. -/
theorem aside_of_other (one : v.OneRunning) (found : v.followers[n]? = some f)
    (running : f.isDone = false) (stepped : v.step segment = some (u, effects))
    (other : segment ≠ .follow n) : Moment.IsAside ⟨v, segment, effects⟩ := by
  intro notice member
  cases segment with
  | serve answer =>
    obtain ⟨call, progress, w, serving, served, rfl⟩ := serve_of_step stepped
    cases tells_of_serve served with
    | nothing silent =>
      rw [show effects.notices = [] from silent] at member
      contradiction
    | forgets aside => exact aside notice member
    | replaces _ _ _ entered stopped =>
      have done := one.allDone_of_stopped serving entered stopped n f found
      rw [running] at done
      contradiction
  | follow index =>
    obtain ⟨f', there, followed⟩ := followed_of_step stepped
    cases one.unique found running there followed.running
    contradiction
  | arrive index arrival =>
    obtain ⟨f', -, -, rfl, -⟩ := arrived_of_step stepped
    contradiction
  | call | complete | cancel | write =>
    cases stepped
    contradiction

/-- While a follower is running, a moment does not concern its stream or is its end. -/
theorem step_while_running (one : v.OneRunning) (found : v.followers[n]? = some f)
    (running : f.isDone = false) (stepped : v.step segment = some (u, effects)) :
    ∃ f', u.followers[n]? = some f' ∧ f'.runId = f.runId ∧
      (f'.isDone = false ∧ Moment.IsAside ⟨v, segment, effects⟩ ∨
        Ends n f.runId ⟨v, segment, effects⟩ f'.phase) := by
  by_cases own : segment = .follow n
  · subst own
    obtain ⟨_, there, followed⟩ := followNext_of_step stepped
    cases found.symm.trans there
    obtain ⟨g, after, runId, -, told⟩ := tells_of_followNext found followed
    refine ⟨g, after, runId, ?_⟩
    rcases told with closed | ⟨silent, goesOn | ⟨crashed, next⟩⟩
    · exact .inr ⟨rfl, .inl closed⟩
    · refine .inl ⟨goesOn, ?_⟩
      simp [Moment.IsAside, silent]
    · exact .inr ⟨rfl, .inr ⟨crashed, silent, f, found, next⟩⟩
  · obtain ⟨g, after, runId, phase⟩ := keeps_of_step found stepped own
    refine ⟨g, after, runId, .inl ⟨?_, aside_of_other one found running stepped own⟩⟩
    rwa [Follower.isDone, phase]

/-- What follows in a history upon the start of a run whose stream follower `n` reads, where `phase` is
where this follower stands at the end of the history. -/
inductive Bracket (n : Nat) (runId : String) (phase : Follower.Phase) : List Moment → Prop
  | running {later : List Moment} (running : phase ≠ .closed ∧ phase ≠ .crashed)
      (aside : ∀ m ∈ later, m.IsAside) : Bracket n runId phase later
  | finished {during : List Moment} {last : Moment} {after : List Moment}
      (aside : ∀ m ∈ during, m.IsAside) (ends : Ends n runId last phase)
      (never : ∀ m ∈ after, m.segment ≠ .follow n) :
      Bracket n runId phase (during ++ last :: after)

theorem bracket_of_path {later : List Moment} (one : v.OneRunning) (path : v.Path later u)
    (found : v.followers[n]? = some f) (running : f.isDone = false) :
    ∃ f', u.followers[n]? = some f' ∧ f'.runId = f.runId ∧ Bracket n f.runId f'.phase later := by
  induction path generalizing f with
  | nil =>
    refine ⟨f, found, rfl, .running ?_ (by simp)⟩
    exact not_or.mp fun done => by simp [(f.isDone_iff).mpr done] at running
  | @cons v w u segment effects rest stepped path ih =>
    obtain ⟨g, found', runId, ⟨running', aside⟩ | ends⟩ :=
      step_while_running one found running stepped
    · -- One more moment aside comes in front of what the rest of the history is.
      obtain ⟨f', last, same, bracket⟩ := ih (oneRunning_step one stepped) found' running'
      refine ⟨f', last, same.trans runId, ?_⟩
      rw [runId] at bracket
      cases bracket with
      | running running asides => exact .running running (List.forall_mem_cons.mpr ⟨aside, asides⟩)
      | finished asides ends never =>
        exact .finished (List.forall_mem_cons.mpr ⟨aside, asides⟩) ends never
    · have done : g.isDone = true := (g.isDone_iff).mpr (ends.2.imp And.left And.left)
      obtain ⟨⟨f', last, same, phase⟩, never⟩ := keeps_of_done path found' done
      refine ⟨f', last, same.trans runId, ?_⟩
      have nothing : ∀ m ∈ ([] : List Moment), m.IsAside := by simp
      rw [phase]
      exact .finished nothing ends never

/-! ## Where a notice comes from -/

/-- A notice that a stream is closed comes from its follower, and any other one from a call that
succeeds. -/
theorem origin_of_notice {notice : Notice} (stepped : v.step segment = some (u, effects))
    (member : notice ∈ effects.notices) :
    (∃ n f, segment = .follow n ∧ v.followers[n]? = some f ∧ notice = .streamClosed f.runId) ∨
      (∀ runId, notice ≠ .streamClosed runId) ∧ effects.succeeds ∧
        ∃ answer, segment = .serve answer := by
  cases segment with
  | serve answer =>
    obtain ⟨call, progress, w, serving, served, rfl⟩ := serve_of_step stepped
    have told : Tells v progress effects := tells_of_serve served
    right
    cases told with
    | nothing silent =>
      rw [silent] at member
      contradiction
    | forgets aside succeeds =>
      obtain ⟨sessionId, rfl, -⟩ := aside notice member
      exact ⟨by simp, succeeds, answer, rfl⟩
    | replaces only told other _ _ succeeds =>
      rw [told, List.mem_singleton] at member
      exact ⟨member ▸ other, succeeds, answer, rfl⟩
  | follow index =>
    obtain ⟨f, found, followed⟩ := followNext_of_step stepped
    obtain ⟨g, -, -, -, ⟨-, told⟩ | ⟨silent, -⟩⟩ := tells_of_followNext found followed
    · rw [told, List.mem_singleton] at member
      exact .inl ⟨index, f, rfl, found, member⟩
    · rw [silent] at member
      contradiction
  | arrive index arrival =>
    obtain ⟨f, -, -, rfl, -⟩ := arrived_of_step stepped
    contradiction
  | call | complete | cancel | write =>
    cases stepped
    contradiction

/-- A run that is made known as started is followed from then on. -/
theorem follower_of_started {runId : String} (stepped : v.step segment = some (u, effects))
    (started : .runStarted runId ∈ effects.notices) :
    ∃ f, u.followers[v.followers.length]? = some f ∧ f.runId = runId ∧ f.isDone = false := by
  obtain ⟨_, _, -, -, same⟩ | ⟨-, -, answer, rfl⟩ := origin_of_notice stepped started
  · contradiction
  obtain ⟨call, progress, w, serving, served, rfl⟩ := served_of_step stepped
  have known : effects.started? ≠ none := fun unstarted =>
    nomatch List.findSome?_eq_none_iff.mp unstarted _ started
  rw [followers_beginNext]
  cases served with
  | proceeds => contradiction
  | ends _ unstarted | stops _ _ unstarted | begins _ _ _ unstarted | replaces _ _ _ unstarted =>
    exact absurd unstarted known
  | @starts runId' epoch stream =>
    cases List.mem_singleton.mp started
    exact ⟨_, List.getElem?_concat_length, rfl, rfl⟩

/-- A new follower comes with the notice that its run is started. -/
theorem started_of_new (stepped : v.step segment = some (u, effects))
    (there : v.followers[n]? = none) (found : u.followers[n]? = some f) :
    n = v.followers.length ∧ .runStarted f.runId ∈ effects.notices := by
  have absent (index : Nat) (g : Follower → Follower) :
      (v.modifyFollower index g).followers[n]? ≠ some f := by
    simp [modifyFollower, List.getElem?_modify, there]
  cases segment with
  | serve answer =>
    obtain ⟨call, progress, w, -, served, rfl⟩ := served_of_step stepped
    rw [followers_beginNext] at found
    cases served with
    | proceeds | ends | begins | replaces => exact absurd (there.symm.trans found) (by simp)
    | stops => exact absurd found (absent _ _)
    | starts =>
      obtain before | ⟨rfl, rfl⟩ := follower_of_follow found
      · exact absurd (there.symm.trans before) (by simp)
      · exact ⟨rfl, List.mem_singleton.mpr rfl⟩
  | follow index =>
    obtain ⟨f', -, followed⟩ := followed_of_step stepped
    cases followed <;> exact absurd found (absent _ _)
  | arrive index arrival =>
    obtain ⟨f', -, -, -, rfl⟩ := arrived_of_step stepped
    exact absurd found (absent _ _)
  | complete index | cancel index =>
    cases stepped
    exact absurd found (absent _ _)
  | call call =>
    cases stepped
    rw [followers_beginNext] at found
    exact absurd (there.symm.trans found) (by simp)
  | write update =>
    cases stepped
    exact absurd (there.symm.trans found) (by simp)

theorem started_of_step (stepped : v.step segment = some (u, effects))
    (found : u.followers[n]? = some f) :
    (∃ f', v.followers[n]? = some f' ∧ f'.runId = f.runId) ∨
      n = v.followers.length ∧ .runStarted f.runId ∈ effects.notices := by
  cases there : v.followers[n]? with
  | some f' =>
    obtain ⟨g, after, continues, -⟩ := follower_of_step there stepped
    cases after.symm.trans found
    exact .inl ⟨f', rfl, continues.runId_eq.symm⟩
  | none => exact .inr (started_of_new stepped there found)

/-- Every follower reads the stream of a run that was made known as started. -/
theorem started_of_follower {moments : List Moment} (path : v.Path moments u)
    (found : u.followers[n]? = some f) :
    (∃ f', v.followers[n]? = some f' ∧ f'.runId = f.runId) ∨
      ∃ start ∈ moments, start.viewer.followers.length = n ∧
        .runStarted f.runId ∈ start.effects.notices := by
  induction path with
  | nil => exact .inl ⟨f, found, rfl⟩
  | @cons v w u segment effects rest stepped path ih =>
    obtain ⟨f', there, same⟩ | ⟨start, member, first, started⟩ := ih found
    · obtain ⟨f'', there', same'⟩ | ⟨rfl, started⟩ := started_of_step stepped there
      · exact .inl ⟨f'', there', same'.trans same⟩
      · exact .inr ⟨_, List.mem_cons_self, rfl, same ▸ started⟩
    · exact .inr ⟨start, List.mem_cons_of_mem _ member, first, started⟩

/-- A follower that is closed has said so. -/
theorem told_of_closed {settings : Settings} {moments : List Moment}
    (path : (new settings).Path moments v) (found : v.followers[n]? = some f)
    (closed : f.phase = .closed) :
    ∃ m ∈ moments, m.segment = .follow n ∧ m.effects.notices = [.streamClosed f.runId] := by
  obtain ⟨_, nothing, -⟩ | ⟨start, member, rfl, started⟩ := started_of_follower path found
  · simp [new] at nothing
  obtain ⟨earlier, later, rfl⟩ := List.append_of_mem member
  obtain ⟨_, front, back⟩ := Path.append_iff.mp path
  cases back with
  | cons stepped back =>
    obtain ⟨g, there, -, running⟩ := follower_of_started stepped started
    have one := oneRunning_step (oneRunning_of_path (oneRunning_new settings) front) stepped
    obtain ⟨f', found', same, bracket⟩ := bracket_of_path one back there running
    cases found.symm.trans found'
    cases bracket with
    | running running => exact absurd closed running.1
    | @finished _ last _ _ ends =>
      obtain ⟨own, ⟨-, told⟩ | ⟨crashed, -⟩⟩ := ends
      · exact ⟨last, by simp, own, same ▸ told⟩
      · rw [closed] at crashed
        contradiction

/-- The start of a run and the end of its stream stand in brackets. Once a run is made known as started,
nothing that concerns its stream is made known until its follower is closed and says so, once; a follower
that breaks off never does. No stream is made known as closed that was not started. And from the end of one
call to the failure of the next, nothing is made known but the end of a stream. -/
theorem streams_bracketed (settings : Settings) {moments : List Moment} {v : Viewer}
    (path : (new settings).Path moments v) :
    (∀ (earlier : List Moment) (start : Moment) (later : List Moment) (runId : String),
      moments = earlier ++ start :: later → .runStarted runId ∈ start.effects.notices →
      let n := start.viewer.followers.length
      ∃ f, v.followers[n]? = some f ∧ f.runId = runId ∧ Bracket n runId f.phase later) ∧
    (∀ (earlier : List Moment) (close : Moment) (later : List Moment) (runId : String),
      moments = earlier ++ close :: later → .streamClosed runId ∈ close.effects.notices →
      ∃ start ∈ earlier, .runStarted runId ∈ start.effects.notices ∧
        close.segment = .follow start.viewer.followers.length) ∧
    (∀ (earlier during : List Moment) (last : Moment) (later : List Moment) (error : DeliveryError),
      moments = earlier ++ during ++ last :: later → last.effects.outcome = some (.failed error) →
      (∀ m ∈ during, m.effects.outcome = none) →
      ∀ m ∈ during ++ [last], ∀ notice ∈ m.effects.notices, ∃ runId, notice = .streamClosed runId) := by
  have one := oneRunning_new settings
  refine ⟨?_, ?_, ?_⟩
  · rintro earlier ⟨before, segment, effects⟩ later runId rfl started n
    obtain ⟨_, path, path'⟩ := Path.append_iff.mp path
    cases path' with
    | cons stepped path' =>
      obtain ⟨f, found, rfl, running⟩ := follower_of_started stepped started
      exact bracket_of_path (oneRunning_step (oneRunning_of_path one path) stepped) path' found running
  · rintro earlier ⟨before, segment, effects⟩ later runId rfl closed
    obtain ⟨_, path, path'⟩ := Path.append_iff.mp path
    cases path' with
    | cons stepped path' =>
      obtain ⟨n, f, own, found, same⟩ | ⟨other, -⟩ := origin_of_notice stepped closed
      · cases same
        obtain ⟨_, nothing, -⟩ | ⟨start, member, rfl, started⟩ := started_of_follower path found
        · simp [new] at nothing
        · exact ⟨start, member, started, own⟩
      · exact absurd rfl (other runId)
  · rintro earlier during last later error rfl failed unfinished m member notice told
    have part : m ∈ earlier ++ during ++ last :: later := by
      simp only [List.mem_append, List.mem_cons, List.not_mem_nil] at member ⊢
      tauto
    obtain ⟨_, stepped⟩ := path.step_of_mem part
    obtain ⟨_, f, -, -, closed⟩ | ⟨-, ⟨outcome, completed, succeeded⟩, -⟩ :=
      origin_of_notice stepped told
    · exact ⟨f.runId, closed⟩
    · -- A notice of a call comes with its success, and there was no call that succeeded.
      rcases List.mem_append.mp member with before | final
      · rw [unfinished m before] at completed
        contradiction
      · rw [List.mem_singleton.mp final, failed] at completed
        exact absurd (Option.some.inj completed).symm (succeeded error)

/-- A run is to be followed. -/
def beginning : List Segment := [.call (.startRun "r1"), .serve .none, .serve .none]

/-- While the stream of the run is open, a session is forgotten; then another run is started, which has
no stream, while the follower of the first one holds a frame. -/
def outlived : List Segment :=
  [.call (.deleteSession "s1"), .serve .none, .arrive 0 (.frame (.delta (some "a") "stale")), .follow 0,
    .call (.startRun "r2"), .serve .none, .serve .none, .follow 0, .serve .none, .serve .none,
    .serve (.stream (.error (.runNotFound "r2"))), .serve .none]

theorem streams_bracketed_outlived :
    ∃ earlier start later v, (new .default).Path (earlier ++ start :: later) v ∧
      .runStarted "r1" ∈ start.effects.notices ∧
      later.getLast?.bind (fun m => m.effects.outcome) = some (.failed (.runNotFound "r2")) ∧
      Bracket 0 "r1" .closed later := by
  obtain ⟨⟨earlier, u⟩, traced, ⟨w, effects⟩, stepped, ⟨later, v⟩, traced', started, own, failed,
      closed⟩ :
      ∃ first ∈ (new .default).trace? beginning,
        ∃ next ∈ first.2.step (.serve (.stream (.ok ⟨[], true⟩))),
        ∃ rest ∈ next.1.trace? outlived,
        .runStarted "r1" ∈ next.2.notices ∧ first.2.followers.length = 0 ∧
        rest.1.getLast?.bind (fun m => m.effects.outcome) = some (.failed (.runNotFound "r2")) ∧
        rest.2.followers[0]?.map Follower.phase = some .closed := by decide +kernel
  have path := (path_of_trace? traced).append (.cons stepped (path_of_trace? traced'))
  refine ⟨earlier, _, later, v, path, started, failed, ?_⟩
  obtain ⟨f, found, -, bracket⟩ := (streams_bracketed .default path).1 earlier _ later "r1" rfl started
  simp only [own] at found bracket
  have phase : f.phase = .closed := by simpa [found] using closed
  rwa [phase] at bracket

/-- The follower of a run breaks off, and the run is stopped then. -/
def brokenOff : List Segment :=
  beginning ++ [.serve (.stream (.ok ⟨[.crash], true⟩)), .follow 0, .call .cancel, .serve .none,
    .serve .none, .serve .none]

/-- A follower can be done without its stream being made known as closed. -/
theorem unclosed_of_brokenOff :
    ∃ moments v, (new .default).Path moments v ∧
      (∃ start ∈ moments, .runStarted "r1" ∈ start.effects.notices) ∧
      (∃ f ∈ v.followers, f.runId = "r1" ∧ f.isDone = true) ∧
      ∀ m ∈ moments, ∀ runId, .streamClosed runId ∉ m.effects.notices := by
  obtain ⟨⟨moments, v⟩, traced, started, done, silent⟩ :
      ∃ all ∈ (new .default).trace? brokenOff,
        (∃ start ∈ all.1, .runStarted "r1" ∈ start.effects.notices) ∧
        (∃ f ∈ all.2.followers, f.runId = "r1" ∧ f.isDone = true) ∧
        ∀ m ∈ all.1, ∀ notice ∈ m.effects.notices, notice.kindName ≠ "stream_closed" := by
    decide +kernel
  refine ⟨moments, v, path_of_trace? traced, started, done, ?_⟩
  intro m member runId closed
  exact silent m member _ closed rfl

end Viewer

end Transcript
