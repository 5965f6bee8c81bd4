import Transcript.Proofs.Viewer.Reading
import Transcript.Proofs.Viewer.Succession

/-! # A run shows what its own stream brings

From the moment in which a run is followed, and until the conversation starts again, the conversation is
the one that the run began with and the frames of its own stream, in order and without a gap, and then
the end of that stream. Followers of earlier streams may still go on meanwhile, but they were cancelled,
and what they hold is lost (`conversation_eq_own_stream`).
-/

namespace Transcript

/-- What arrives on the stream of a follower in a moment. -/
def Moment.arrival? (n : Nat) (m : Moment) : Option Arrival :=
  match m.segment with
  | .arrive index arrival => if index = n then some arrival else none
  | _ => none

/-- What arrives on the stream of a follower in a stretch of a history. -/
def arrivals (n : Nat) (moments : List Moment) : List Arrival :=
  moments.filterMap (Moment.arrival? n)

/-- Whether a follower has its turn in a moment, with its stream exhausted, and was not cancelled. -/
def Moment.ends (n : Nat) (m : Moment) : Bool :=
  match m.segment with
  | .follow index => index = n && m.viewer.followers[n]?.any Follower.settles
  | _ => false

namespace Viewer

open Conversation (feed)

/-- How far follower `n` has brought the conversation `start`, when these items have arrived. -/
structure Shows (v : Viewer) (n : Nat) (runId : String) (start : Conversation)
    (items : List Arrival) (taken : List Frame) (ended : Bool) : Prop where
  conversation_eq : v.conversation = (feed (Follower.inputs taken ended) start).1
  latest : v.followers.length = n + 1
  /-- No call has begun the conversation of another run. -/
  unbegun : ∀ call progress,
    v.serving = some (call, progress) → progress.hasBegun call = false
  follower : ∃ f, v.followers[n]? = some f ∧ f.runId = runId ∧ f.epoch = start.epoch ∧
    f.Reads items taken ended

namespace Shows

variable {settings : Settings} {v u : Viewer} {n : Nat} {runId : String} {start : Conversation}
  {items : List Arrival} {taken : List Frame} {ended : Bool}

theorem beginNext (shows : v.Shows n runId start items taken ended) :
    v.beginNext.Shows n runId start items taken ended := by
  unfold Viewer.beginNext
  split
  · exact { shows with
      unbegun := by
        intro call progress serving
        cases serving
        rfl }
  · exact shows

/-- Another follower may change in any way. -/
theorem modifyOther (shows : v.Shows n runId start items taken ended) {index : Nat}
    (other : index ≠ n) (g : Follower → Follower) :
    (v.modifyFollower index g).Shows n runId start items taken ended :=
  { shows with
    latest := by simpa [Viewer.modifyFollower] using shows.latest
    follower := by
      obtain ⟨f, found, rest⟩ := shows.follower
      refine ⟨f, ?_, rest⟩
      simpa [Viewer.modifyFollower, List.getElem?_modify, other] using found }

/-- The follower itself may change in a way that keeps its account. -/
theorem modifyOwn (shows : v.Shows n runId start items taken ended) {f : Follower}
    (found : v.followers[n]? = some f) {g : Follower → Follower} {items' : List Arrival}
    (runId_eq : (g f).runId = f.runId) (epoch_eq : (g f).epoch = f.epoch)
    (reads : f.Reads items taken ended → (g f).Reads items' taken ended) :
    (v.modifyFollower n g).Shows n runId start items' taken ended :=
  { shows with
    latest := by simpa [Viewer.modifyFollower] using shows.latest
    follower := by
      obtain ⟨f', found', rfl, epoch, account⟩ := shows.follower
      obtain rfl := Option.some.inj (found.symm.trans found')
      refine ⟨g f, ?_, runId_eq, epoch_eq.trans epoch, reads account⟩
      simp [Viewer.modifyFollower, found] }

theorem cancel (shows : v.Shows n runId start items taken ended) (index : Nat) :
    (v.modifyFollower index fun f => { f with cancelled := true }).Shows n runId start items taken
      ended := by
  by_cases own : index = n
  · obtain ⟨f, found, -⟩ := shows.follower
    exact own ▸ shows.modifyOwn found rfl rfl Follower.Reads.cancel
  · exact shows.modifyOther own _

theorem serve {call : Call} {progress : Progress} {answer : Answer} {effects : Effects}
    (shows : v.Shows n runId start items taken ended) (serving : v.serving = some (call, progress))
    (served : Served v call progress answer (u, effects)) (kept : effects.clears = false) :
    u.Shows n runId start items taken ended := by
  have unbegun : progress.hasBegun call = false := shows.unbegun call progress serving
  -- Whatever touches the conversation here either clears it or belongs to a call that has begun a run.
  cases served with
  | proceeds _ _ untouched =>
    exact { shows with
      unbegun := by
        intro _ _ goesOn
        cases goesOn
        by_contra begun
        exact Bool.eq_false_iff.mp unbegun (untouched (Bool.not_eq_false _ ▸ begun)) }
  | ends => exact { shows with unbegun := by simp [Viewer.finish] }
  | stops =>
    exact { shows.cancel _ with
      unbegun := by
        intro _ _ goesOn
        cases goesOn
        rfl }
  | begins _ _ cleared => simp [cleared] at kept
  | replaces _ _ cleared => simp [kept, unbegun] at cleared
  | starts => contradiction

theorem followOwn {f : Follower} {effects : Effects}
    (shows : v.Shows n runId start items taken ended) (found : v.followers[n]? = some f)
    (followed : Followed v n f (u, effects)) :
    ∃ taken', u.Shows n runId start items taken' (ended || f.settles) := by
  obtain ⟨f', found', rfl, epoch, reads⟩ := shows.follower
  obtain rfl := Option.some.inj (found.symm.trans found')
  have current : f.isSuperseded v.conversation = f.cancelled := by
    have same : f.epoch = v.conversation.epoch := by
      rw [epoch, shows.conversation_eq, Conversation.epoch_feed]
    simp [Follower.isSuperseded, same]
  obtain ⟨rfl, g, more, rfl, runId_eq, epoch_eq, account⟩ := reads.follow current followed
  refine ⟨taken ++ more, ?_⟩
  exact { shows with
    conversation_eq := by
      rw [Bool.false_or, Follower.inputs_append, Conversation.feed_append, ← shows.conversation_eq]
    latest := by simpa using shows.latest
    follower := ⟨g f, by simp [found], runId_eq, epoch_eq.trans epoch, account⟩ }

/-- No other stream is followed. -/
theorem current_eq (shows : v.Shows n runId start items taken ended) (steady : v.Steady settings)
    {index : Nat} (current : v.current = some index) : index = n := by
  have last := steady.latest index current
  have latest := shows.latest
  omega

end Shows

variable {settings : Settings} {v u : Viewer} {n : Nat} {runId : String} {start : Conversation}
  {items : List Arrival} {taken : List Frame} {ended : Bool}

/-- Only the follower of the stream that is followed touches the conversation. -/
theorem Steady.of_not_current (steady : v.Steady settings) {index : Nat} {f : Follower}
    {effects : Effects} (other : v.current ≠ some index) (found : v.followers[index]? = some f)
    (followed : Followed v index f (u, effects)) :
    effects.changes = [] ∧ ∃ g, u = v.modifyFollower index g := by
  apply followed.of_cancelled
  by_contra uncancelled
  exact other (steady.alone index f found (Bool.not_eq_true _ ▸ uncancelled))

theorem shows_step {segment : Segment} {effects : Effects} (steady : v.Steady settings)
    (shows : v.Shows n runId start items taken ended) (alone : segment.isWrite = false)
    (stepped : v.step segment = some (u, effects))
    (kept : ∀ answer, segment = .serve answer → effects.clears = false) :
    ∃ taken', u.Shows n runId start
      (items ++ (Moment.arrival? n ⟨v, segment, effects⟩).toList) taken'
      (ended || Moment.ends n ⟨v, segment, effects⟩) := by
  cases segment with
  | call call =>
    cases stepped
    have waits : ({ v with waiting := v.waiting ++ [call] } : Viewer).Shows n runId start items taken
      ended := { shows with }
    exact ⟨taken, by simpa [Moment.arrival?, Moment.ends] using waits.beginNext⟩
  | serve answer =>
    obtain ⟨call, progress, w, serving, served, rfl⟩ := served_of_step stepped
    have serves := shows.serve serving served (kept answer rfl)
    exact ⟨taken, by simpa [Moment.arrival?, Moment.ends] using serves.beginNext⟩
  | follow index =>
    obtain ⟨f, found, followed⟩ := followed_of_step stepped
    by_cases own : index = n
    · subst own
      obtain ⟨taken', follows⟩ := shows.followOwn found followed
      exact ⟨taken', by simpa [Moment.arrival?, Moment.ends, found] using follows⟩
    · have other : v.current ≠ some index := fun current => own (shows.current_eq steady current)
      obtain ⟨-, g, rfl⟩ := steady.of_not_current other found followed
      exact ⟨taken, by simpa [Moment.arrival?, Moment.ends, own] using shows.modifyOther own g⟩
  | arrive index arrival =>
    obtain ⟨f, found, isOpen, rfl, rfl⟩ := arrived_of_step stepped
    refine ⟨taken, ?_⟩
    by_cases own : index = n
    · subst own
      simp only [Moment.arrival?, Moment.ends, if_true, Option.toList_some, Bool.or_false]
      exact shows.modifyOwn found rfl rfl fun reads => reads.arrive isOpen arrival
    · simpa [Moment.arrival?, Moment.ends, own] using shows.modifyOther own _
  | complete index =>
    cases stepped
    refine ⟨taken, ?_⟩
    simp only [Moment.arrival?, Moment.ends, Option.toList_none, List.append_nil, Bool.or_false]
    by_cases own : index = n
    · obtain ⟨f, found, -⟩ := shows.follower
      exact own ▸ shows.modifyOwn found rfl rfl Follower.Reads.complete
    · exact shows.modifyOther own _
  | cancel index =>
    cases stepped
    exact ⟨taken, by simpa [Moment.arrival?, Moment.ends] using shows.cancel index⟩
  | write update => contradiction

/-- Until a call lets the conversation start again, the follower brings it further. -/
theorem shows_of_unreplaced {later : List Moment} (steady : v.Steady settings)
    (shows : v.Shows n runId start items taken ended) (path : v.Path later u)
    (alone : ∀ m ∈ later, m.segment.isWrite = false)
    (kept : ∀ m ∈ later, ∀ answer, m.segment = .serve answer → m.effects.clears = false) :
    ∃ taken', u.Shows n runId start (items ++ arrivals n later) taken'
      (ended || later.any (Moment.ends n)) := by
  induction path generalizing items taken ended with
  | nil => exact ⟨taken, by simpa [arrivals] using shows⟩
  | @cons v _ _ segment effects rest stepped _ ih =>
    obtain ⟨unwritten, aloneLater⟩ := List.forall_mem_cons.mp alone
    obtain ⟨uncleared, keptLater⟩ := List.forall_mem_cons.mp kept
    obtain ⟨next, shows⟩ := shows_step steady shows unwritten stepped uncleared
    obtain ⟨taken', shows⟩ := ih (steady_step steady unwritten stepped) shows aloneLater keptLater
    -- What the first moment brings stands in front of what the rest of the history brings.
    have items_eq : (Moment.arrival? n ⟨v, segment, effects⟩).toList ++ arrivals n rest =
        arrivals n (⟨v, segment, effects⟩ :: rest) := by
      simp only [arrivals, List.filterMap_cons]
      cases Moment.arrival? n ⟨v, segment, effects⟩ <;> rfl
    rw [List.append_assoc, items_eq, Bool.or_assoc, ← List.any_cons] at shows
    exact ⟨taken', shows⟩

theorem shows_of_path {later : List Moment} (steady : v.Steady settings)
    (shows : v.Shows n runId start items taken ended) (path : v.Path later u)
    (alone : ∀ m ∈ later, m.segment.isWrite = false) (kept : ∀ m ∈ later, m.effects.clears = false) :
    ∃ taken', u.Shows n runId start (items ++ arrivals n later) taken'
      (ended || later.any (Moment.ends n)) :=
  shows_of_unreplaced steady shows path alone fun m member _ _ => kept m member

/-- From the moment in which a stream is followed, its follower has yet to take anything. -/
theorem shows_of_started {stream : Stream} {effects : Effects} (steady : v.Steady settings)
    (stepped : v.step (.serve (.stream (.ok stream))) = some (u, effects))
    (started : effects.started? = some runId) :
    ∃ base : Conversation, base.settings = settings ∧
      u.Shows v.followers.length runId (Conversation.beginRun runId base).1 stream.queue [] false := by
  obtain ⟨call, progress, w, serving, served, rfl⟩ := served_of_step stepped
  cases served with
  | proceeds => contradiction
  | ends _ unstarted | stops _ _ unstarted | begins _ _ _ unstarted | replaces _ _ _ unstarted =>
    rw [started] at unstarted
    contradiction
  | starts call_eq =>
    subst call_eq
    cases started
    obtain ⟨base, settings_eq, begun, epoch⟩ := steady.begun runId _ serving
    refine ⟨base, settings_eq, Shows.beginNext ?_⟩
    exact {
      conversation_eq := begun
      latest := by simp [Viewer.finish]
      unbegun := by simp [Viewer.finish]
      follower := by
        refine ⟨⟨runId, stream, _, false, .receiving⟩, by simp [Viewer.finish], rfl,
          epoch.trans (by rw [begun]), [], ?_, ?_⟩
        · exact .waiting (by simp [Frame.AllWhole])
        · simp }

/-- A stream that is no longer followed never touches the conversation again. At most one follower was
not cancelled, only the follower of the stream that is followed touches the conversation, and from the
moment in which a run was started with a stream, until the conversation starts again, the conversation
is told what came on this stream, and nothing else. -/
theorem conversation_eq_own_stream (settings : Settings) {moments : List Moment} {v : Viewer}
    (path : (new settings).Path moments v) (alone : ∀ m ∈ moments, m.segment.isWrite = false) :
    (∀ (i j : Nat) (f g : Follower), v.followers[i]? = some f → v.followers[j]? = some g →
      f.cancelled = false → g.cancelled = false → i = j) ∧
    (∀ index w effects, v.current ≠ some index → v.step (.follow index) = some (w, effects) →
      w.conversation = v.conversation ∧ effects.changes = []) ∧
    ∀ (earlier : List Moment) (start : Moment) (later : List Moment) (runId : String)
      (stream : Stream), moments = earlier ++ start :: later →
      start.segment = .serve (.stream (.ok stream)) → start.effects.started? = some runId →
      (∀ m ∈ later, m.effects.clears = false) →
      let n := start.viewer.followers.length
      let items := stream.queue ++ arrivals n later
      let ended := later.any (Moment.ends n)
      (∀ index, v.current = some index → index = n) ∧
      ∃ (base : Conversation) (f : Follower) (taken : List Frame),
        base.settings = settings ∧ v.followers[n]? = some f ∧ f.runId = runId ∧
        v.conversation =
          (feed (Follower.inputs taken ended) (Conversation.beginRun runId base).1).1 ∧
        f.Told items taken ended := by
  have steady : v.Steady settings := steady_of_path (steady_new settings) path alone
  refine ⟨?_, ?_, ?_⟩
  · intro i j f g first second uncancelled uncancelled'
    have current := steady.alone i f first uncancelled
    rw [steady.alone j g second uncancelled'] at current
    exact (Option.some.inj current).symm
  · intro index w effects other stepped
    obtain ⟨f, found, followed⟩ := followed_of_step stepped
    obtain ⟨silent, g, rfl⟩ := steady.of_not_current other found followed
    exact ⟨rfl, silent⟩
  · rintro earlier ⟨before, segment, effects⟩ later runId stream rfl rfl started kept n items ended
    obtain ⟨u, path, path'⟩ := Path.append_iff.mp path
    cases path' with
    | cons stepped path' =>
      simp only [List.forall_mem_append, List.forall_mem_cons] at alone
      have steadyBefore := steady_of_path (steady_new settings) path alone.1
      obtain ⟨base, settings_eq, shows⟩ := shows_of_started steadyBefore stepped started
      have steadyAfter := steady_step steadyBefore alone.2.1 stepped
      obtain ⟨taken, shows⟩ := shows_of_path steadyAfter shows path' alone.2.2 kept
      obtain ⟨f, found, runId_eq, -, reads⟩ := shows.follower
      exact ⟨fun _ current => shows.current_eq steady current, base, f, taken, settings_eq, found,
        runId_eq, shows.conversation_eq, reads.told⟩

/-- Another run is started while the follower of a run holds a frame. -/
def replacing : List Segment :=
  [.call (.startRun "r1"), .serve .none, .serve .none, .serve (.stream (.ok ⟨[], true⟩)),
    .arrive 0 (.frame (.delta (some "a") "stale")), .follow 0, .call (.startRun "r2"), .serve .none,
    .serve .none, .follow 0, .serve .none, .serve .none]

def freshStream : Stream := ⟨[.frame (.delta (some "a") "fresh")], true⟩

/-- The stream of the other run is read to its end, while more comes on the earlier one. -/
def replaced : List Segment :=
  [.arrive 0 (.frame (.delta (some "a") "late")), .follow 1, .follow 1, .complete 1, .follow 1,
    .follow 1]

theorem conversation_eq_own_stream_replaced :
    ∃ earlier start later v, (new .default).Path (earlier ++ start :: later) v ∧
      (∀ m ∈ earlier ++ start :: later, m.segment.isWrite = false) ∧
      start.segment = .serve (.stream (.ok freshStream)) ∧ start.effects.started? = some "r2" ∧
      (∀ m ∈ later, m.effects.clears = false) ∧
      ∃ (base : Conversation) (f : Follower) (taken : List Frame), v.followers[1]? = some f ∧
        v.conversation = (feed (Follower.inputs taken true) (Conversation.beginRun "r2" base).1).1 ∧
        f.Told freshStream.queue taken true := by
  obtain ⟨⟨earlier, u⟩, traced, ⟨w, effects⟩, stepped, ⟨later, v⟩, traced', alone, started, kept, own,
      arrived, ended⟩ :
      ∃ first ∈ (new .default).trace? replacing,
        ∃ next ∈ first.2.step (.serve (.stream (.ok freshStream))),
        ∃ rest ∈ next.1.trace? replaced,
        (∀ m ∈ first.1 ++ ⟨first.2, .serve (.stream (.ok freshStream)), next.2⟩ :: rest.1,
          m.segment.isWrite = false) ∧
        next.2.started? = some "r2" ∧ (∀ m ∈ rest.1, m.effects.clears = false) ∧
        first.2.followers.length = 1 ∧ arrivals 1 rest.1 = [] ∧
        rest.1.any (Moment.ends 1) = true := by decide +kernel
  have path := (path_of_trace? traced).append (.cons stepped (path_of_trace? traced'))
  refine ⟨earlier, _, later, v, path, alone, rfl, started, kept, ?_⟩
  obtain ⟨base, f, taken, -, found, -, shown, told⟩ :=
    ((conversation_eq_own_stream .default path alone).2.2 earlier _ later "r2" freshStream rfl rfl
      started kept).2
  simp only [own, arrived, ended, List.append_nil] at found shown told
  exact ⟨base, f, taken, found, shown, told⟩

end Viewer

end Transcript
