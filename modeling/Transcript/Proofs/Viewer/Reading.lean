import Transcript.Proofs.Viewer.Turn

/-! # What a follower does with its stream

A follower is accounted for by the frames that the conversation took from it, by what it has read beyond
these, and by whether it has told the conversation that the stream has ended. Together with what still
waits on the stream this is, in order, all that ever arrived (`Reads`). A segment of the follower keeps
that, and it gives the conversation exactly what it adds to the account (`Reads.follow`). A follower that
is done and was never cancelled has given it the whole report of its stream (`Reads.report_eq`).
-/

namespace Transcript

/-- Whether none of the frames says that the stream has failed. -/
def Frame.AllWhole (frames : List Frame) : Prop := ∀ frame ∈ frames, frame.isFailure = false

theorem Frame.AllWhole.concat {frames : List Frame} {frame : Frame} (whole : AllWhole frames)
    (last : frame.isFailure = false) : AllWhole (frames ++ [frame]) := by
  intro other member
  rcases List.mem_append.mp member with earlier | final
  · exact whole other earlier
  · exact List.mem_singleton.mp final ▸ last

/-- The frames up to the first one that says that the stream has failed. -/
def Frame.untilFailure : List Frame → List Frame
  | [] => []
  | frame :: rest => if frame.isFailure then [frame] else frame :: untilFailure rest

theorem Frame.AllWhole.untilFailure_append {before : List Frame} (whole : AllWhole before)
    (frames : List Frame) : untilFailure (before ++ frames) = before ++ untilFailure frames := by
  induction before with
  | nil => rfl
  | cons frame rest ih =>
    obtain ⟨first, later⟩ := List.forall_mem_cons.mp whole
    rw [List.cons_append, untilFailure, first, if_neg Bool.false_ne_true, ih later, List.cons_append]

theorem Frame.AllWhole.untilFailure_eq {frames : List Frame} (whole : AllWhole frames) :
    untilFailure frames = frames := by
  simpa [untilFailure] using whole.untilFailure_append []

namespace Follower

open Conversation (Input feed)

/-- Whether the next segment of the follower tells the conversation that the stream has ended. -/
def settles (f : Follower) : Bool := f.phase = .ending && !f.cancelled

/-- Where a follower stands after the conversation has taken frames from it and, maybe, the end of the
stream. Between these and what waits on the stream, it may hold something that it has read. -/
inductive Account (f : Follower) : Phase → List Frame → List (Option Frame) → Bool → Prop
  | waiting {taken : List Frame} (whole : Frame.AllWhole taken) :
      Account f .receiving taken [] false
  | holding {taken : List Frame} {frame : Frame} (whole : Frame.AllWhole taken) :
      Account f (.delivering frame) taken [some frame] false
  | exhausted {taken : List Frame} (whole : Frame.AllWhole taken) (stream : f.stream = ⟨[], false⟩) :
      Account f .ending taken [] false
  | settled {taken : List Frame} (whole : Frame.AllWhole taken) (stream : f.stream = ⟨[], false⟩) :
      Account f .closed taken [] true
  | failed {taken : List Frame} {frame : Frame} (whole : Frame.AllWhole taken)
      (failure : frame.isFailure) : Account f .closed (taken ++ [frame]) [] false
  | gaveUp {taken : List Frame} {held : List (Option Frame)} (whole : Frame.AllWhole taken)
      (cancelled : f.cancelled) : Account f .closed taken held false
  | broken {taken : List Frame} (whole : Frame.AllWhole taken) :
      Account f .crashed taken [none] false

variable {f : Follower} {items : List Arrival} {taken : List Frame} {held : List (Option Frame)}
  {ended : Bool}

/-- Neither a cancellation nor anything that happens to an open stream makes a difference. -/
theorem Account.of_kept {g : Follower} {phase : Phase} (account : f.Account phase taken held ended)
    (cancelled : f.cancelled → g.cancelled)
    (stream : f.stream = ⟨[], false⟩ → g.stream = ⟨[], false⟩) :
    g.Account phase taken held ended := by
  cases account with
  | waiting whole => exact .waiting whole
  | holding whole => exact .holding whole
  | exhausted whole spent => exact .exhausted whole (stream spent)
  | settled whole spent => exact .settled whole (stream spent)
  | failed whole failure => exact .failed whole failure
  | gaveUp whole gone => exact .gaveUp whole (cancelled gone)
  | broken whole => exact .broken whole

theorem Account.of_running (account : f.Account f.phase taken held ended)
    (running : f.isDone = false) : ended = false ∧ Frame.AllWhole taken := by
  generalize same : f.phase = phase at account
  cases account with
  | waiting whole | holding whole | exhausted whole => exact ⟨rfl, whole⟩
  | settled | failed | gaveUp | broken => simp [isDone, same] at running

/-- Whether the account is complete, when all these items have arrived on the stream. -/
def Reads (f : Follower) (items : List Arrival) (taken : List Frame) (ended : Bool) : Prop :=
  ∃ held, f.Account f.phase taken held ended ∧
    taken.map some ++ held ++ f.stream.queue.map Arrival.frame? = items.map Arrival.frame?

/-- What a conversation takes together with these frames. -/
def inputs (taken : List Frame) (ended : Bool) : List Input :=
  taken.map .frame ++ if ended then [.ended] else []

theorem inputs_append (taken more : List Frame) (ended : Bool) :
    inputs (taken ++ more) ended = inputs taken false ++ inputs more ended := by
  simp [inputs]

/-- What a conversation takes of a stream that is followed to the last: its frames up to the first
failure, and its end if there is none. -/
def report (frames : List Frame) : List Input :=
  inputs (Frame.untilFailure frames) (frames.all fun frame => !frame.isFailure)

theorem report_of_allWhole {frames : List Frame} (whole : Frame.AllWhole frames) :
    report frames = inputs frames true := by
  have ends : frames.all (fun frame => !frame.isFailure) = true := by
    simpa [Frame.AllWhole] using whole
  rw [report, whole.untilFailure_eq, ends]

/-- What comes after a failure makes no difference. -/
theorem report_of_failure {before : List Frame} {frame : Frame} (whole : Frame.AllWhole before)
    (failure : frame.isFailure = true) (after : List Frame) :
    report (before ++ frame :: after) = inputs (before ++ [frame]) false := by
  have fails : (before ++ frame :: after).all (fun frame => !frame.isFailure) = false := by
    simp [failure]
  rw [report, whole.untilFailure_append, Frame.untilFailure, if_pos failure, fails]

theorem report_cons_of_failure {frame : Frame} (failure : frame.isFailure = true) (rest : List Frame) :
    report (frame :: rest) = [.frame frame] := by
  simp [report, Frame.untilFailure, inputs, failure]

/-- Of a first frame that is no failure the conversation takes that frame first. -/
theorem report_cons_of_whole {frame : Frame} (whole : frame.isFailure = false) (rest : List Frame) :
    report (frame :: rest) = .frame frame :: report rest := by
  simp [report, Frame.untilFailure, inputs, whole]

/-- What is to be known of a follower and the conversation that it reads to, when these items have
arrived on its stream. -/
structure Told (f : Follower) (items : List Arrival) (taken : List Frame) (ended : Bool) : Prop where
  /-- The conversation has taken what came, in order and without a gap. -/
  inOrder : taken.map some <+: items.map Arrival.frame?
  /-- It has taken nothing after a failure. -/
  untilFailure : Frame.AllWhole taken.dropLast
  /-- It was told of the end once the stream was exhausted, all of it was taken and nothing failed. -/
  exhausted : ended → f.stream = ⟨[], false⟩ ∧ taken.map some = items.map Arrival.frame? ∧
    Frame.AllWhole taken
  /-- A follower that was never cancelled is done only after the end or a failure. -/
  finished : f.phase = .closed → f.cancelled = false →
    ended ∨ ∃ last ∈ taken.getLast?, last.isFailure

theorem Account.untilFailure {phase : Phase} (account : f.Account phase taken held ended) :
    Frame.AllWhole taken.dropLast := by
  cases account with
  | waiting whole | holding whole | exhausted whole | settled whole | gaveUp whole | broken whole =>
    exact fun frame member => whole frame (List.dropLast_subset taken member)
  | failed whole => rwa [List.dropLast_concat]

theorem Reads.told (reads : f.Reads items taken ended) : f.Told items taken ended := by
  obtain ⟨held, account, balance⟩ := reads
  constructor
  case inOrder => exact ⟨_, (List.append_assoc ..).symm.trans balance⟩
  case untilFailure => exact account.untilFailure
  case exhausted =>
    rintro rfl
    generalize f.phase = phase at account
    cases account with
    | settled whole stream => exact ⟨stream, by simpa [stream] using balance, whole⟩
  case finished =>
    intro closed uncancelled
    rw [closed] at account
    cases account with
    | settled => exact .inl rfl
    | @failed _ frame _ failure => exact .inr ⟨frame, by simp, failure⟩
    | gaveUp _ cancelled => simp [uncancelled] at cancelled

/-- What a follower breaks off at, or has yet to break off at, has arrived. -/
theorem Reads.crash_mem (reads : f.Reads items taken ended)
    (breaks : f.phase = .crashed ∨ .crash ∈ f.stream.queue) : .crash ∈ items := by
  obtain ⟨held, account, balance⟩ := reads
  have broken : none ∈ items.map Arrival.frame? := by
    rw [← balance]
    rcases breaks with crashed | waits
    · rw [crashed] at account
      cases account
      simp
    · exact List.mem_append_right _ (List.mem_map_of_mem (f := Arrival.frame?) waits)
  obtain ⟨item, member, unreadable⟩ := List.mem_map.mp broken
  exact Arrival.eq_crash_of_frame? unreadable ▸ member

/-- A follower that is done and was not cancelled has told the conversation all that there is to tell of
its stream. -/
theorem Reads.report_eq (reads : f.Reads items taken ended) (uncancelled : f.cancelled = false)
    (done : f.isDone = true) (unbroken : .crash ∉ items) :
    inputs taken ended = report (items.filterMap Arrival.frame?) := by
  have uncrashed : f.phase ≠ .crashed := fun crashed => unbroken (reads.crash_mem (.inl crashed))
  obtain ⟨held, account, balance⟩ := reads
  have frames : items.filterMap Arrival.frame? =
      taken ++ held.filterMap id ++ f.stream.queue.filterMap Arrival.frame? := by
    simpa [List.filterMap_map] using congrArg (List.filterMap id) balance.symm
  generalize same : f.phase = phase at account
  cases account with
  | waiting | holding | exhausted => simp [isDone, same] at done
  | settled whole stream => simp [frames, stream, report_of_allWhole whole]
  | failed whole failure => simp [frames, report_of_failure whole failure]
  | gaveUp _ cancelled => simp [uncancelled] at cancelled
  | broken => exact absurd same uncrashed

namespace Reads

theorem cancel (reads : f.Reads items taken ended) :
    { f with cancelled := true }.Reads items taken ended := by
  obtain ⟨held, account, balance⟩ := reads
  exact ⟨held, account.of_kept (fun _ => rfl) id, balance⟩

theorem complete (reads : f.Reads items taken ended) :
    { f with stream := { f.stream with isOpen := false } }.Reads items taken ended := by
  obtain ⟨held, account, balance⟩ := reads
  exact ⟨held, account.of_kept id fun spent => by rw [spent], balance⟩

theorem arrive (reads : f.Reads items taken ended) (isOpen : f.stream.isOpen) (arrival : Arrival) :
    { f with stream := { f.stream with queue := f.stream.queue ++ [arrival] } }.Reads
      (items ++ [arrival]) taken ended := by
  obtain ⟨held, account, balance⟩ := reads
  refine ⟨held, account.of_kept id fun spent => ?_, ?_⟩
  · rw [spent] at isOpen
    contradiction
  · rw [List.map_append, List.map_append, ← List.append_assoc, balance]

/-- A segment of a follower that is superseded only if it was cancelled: what the conversation takes in
it is what it adds to the account. -/
theorem follow {v u : Viewer} {index : Nat} {effects : Effects} (reads : f.Reads items taken ended)
    (current : f.isSuperseded v.conversation = f.cancelled)
    (followed : v.Followed index f (u, effects)) :
    ended = false ∧ ∃ g more,
      u = { v with
        conversation := (feed (inputs more f.settles) v.conversation).1
        followers := v.followers.modify index g } ∧
      (g f).runId = f.runId ∧ (g f).epoch = f.epoch ∧
      (g f).Reads items (taken ++ more) f.settles := by
  obtain ⟨held, account, balance⟩ := reads
  obtain ⟨rfl, whole⟩ := account.of_running followed.running
  refine ⟨rfl, ?_⟩
  -- The phase in which the segment is possible fixes the account before it.
  cases followed with
  | givesUp superseded =>
    have cancelled : f.cancelled := current ▸ superseded
    have quiet : f.settles = false := by simp [settles, cancelled]
    rw [quiet]
    refine ⟨_, [], rfl, rfl, rfl, held, ?_, ?_⟩
    · exact .gaveUp (by rwa [List.append_nil]) cancelled
    · rwa [List.append_nil]
  | exhausts phase stream =>
    have quiet : f.settles = false := by simp [settles, phase]
    rw [phase] at account
    cases account with
    | waiting =>
      rw [quiet]
      refine ⟨_, [], rfl, rfl, rfl, [], ?_, ?_⟩
      · exact .exhausted (by rwa [List.append_nil]) stream
      · rwa [List.append_nil taken]
  | @reads _ frame _ phase next readable =>
    have quiet : f.settles = false := by simp [settles, phase]
    rw [phase] at account
    cases account with
    | waiting =>
      rw [quiet]
      refine ⟨_, [], rfl, rfl, rfl, [some frame], ?_, ?_⟩
      · exact .holding (by rwa [List.append_nil])
      · simpa [next, readable] using balance
  | breaks phase next unreadable =>
    have quiet : f.settles = false := by simp [settles, phase]
    rw [phase] at account
    cases account with
    | waiting =>
      rw [quiet]
      refine ⟨_, [], rfl, rfl, rfl, [none], ?_, ?_⟩
      · exact .broken (by rwa [List.append_nil])
      · simpa [next, unreadable] using balance
  | @delivers frame after _ phase _ next =>
    have quiet : f.settles = false := by simp [settles, phase]
    rw [phase] at account
    cases account with
    | holding =>
      rw [quiet]
      refine ⟨_, [frame], rfl, rfl, rfl, [], ?_, ?_⟩
      · cases failure : frame.isFailure with
        | true =>
          rw [failure, if_pos rfl] at next
          exact next ▸ .failed whole failure
        | false =>
          rw [failure, if_neg Bool.false_ne_true] at next
          exact next ▸ .waiting (whole.concat failure)
      · simpa using balance
  | settles phase alive =>
    have settling : f.settles = true := by simp [settles, phase, ← current, alive]
    rw [phase] at account
    cases account with
    | exhausted _ stream =>
      rw [settling]
      refine ⟨_, [], rfl, rfl, rfl, [], ?_, ?_⟩
      · exact .settled (by rwa [List.append_nil]) stream
      · rwa [List.append_nil taken]

end Reads

end Follower

end Transcript
