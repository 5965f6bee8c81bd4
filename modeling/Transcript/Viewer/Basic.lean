import Transcript.Conversation.Basic
import Transcript.Storage.RunDirectory
import Transcript.Viewer.Notice

/-! # Showing one run at a time

A viewer shows one conversation and follows at most one live stream. Callers ask it to start or open
a run, to cancel, to reset, to begin or forget a session, and to tell its session or the stream that
it follows; a follower is a task of its own that reads the frames of a stream into the conversation.

Everything happens in segments between which tasks may switch, and `Viewer.step` is one segment: of
the one call that is being served, of a follower, an arrival on a stream, or a cancellation from
outside. Calls are served one at a time, in the order in which they came. A call that replaces what
is shown first cancels the stream that is followed and waits until its follower is done; only then
does it touch the conversation. A follower asks, before each frame, whether it was cancelled or the
conversation has started again, and gives up if so.

Two things are assumed. The source of runs always returns when it is asked to give up a stream, and
every caller waits until its call is served: no call is dropped half-way.
-/

namespace Transcript

/-! ## Streams and followers -/

/-- Something that arrives on a stream. -/
inductive Arrival where
  | frame (frame : Frame)
  /-- The stream fails. -/
  | failure (error : DeliveryError)
  /-- The follower breaks off when it reads this. -/
  | crash
deriving DecidableEq, Repr

/-- What has arrived on a stream and was not read yet. -/
structure Stream where
  queue : List Arrival
  /-- Whether more may arrive. -/
  isOpen : Bool
deriving DecidableEq, Repr

/-- Where a follower stands between two of its segments. -/
inductive Follower.Phase where
  /-- It waits for the next arrival. -/
  | receiving
  /-- It has a frame and waits for the conversation. -/
  | delivering (frame : Frame)
  /-- The stream is exhausted, and it waits for the conversation to say so. -/
  | ending
  /-- It is done. -/
  | closed
  /-- It broke off. -/
  | crashed
deriving DecidableEq, Repr

/-- A task that reads a stream into the conversation. -/
structure Follower where
  runId : String
  stream : Stream
  /-- The epoch of the conversation for which the stream was started. -/
  epoch : Nat
  cancelled : Bool
  phase : Follower.Phase
deriving DecidableEq, Repr

namespace Follower

def isDone (f : Follower) : Bool :=
  f.phase = .closed || f.phase = .crashed

/-- Whether the conversation is no longer the one that the stream was started for. -/
def isSuperseded (f : Follower) (c : Conversation) : Bool :=
  f.cancelled || f.epoch ≠ c.epoch

end Follower

/-! ## Calls -/

/-- What a caller may ask for. -/
inductive Call where
  /-- Follow the stream of a run that has just been created. -/
  | startRun (runId : String)
  /-- Show a stored run. -/
  | openRun (runId : String)
  /-- Stop following the stream. -/
  | cancel
  /-- Stop following the stream and show nothing. -/
  | reset
  /-- Begin a session, with nothing shown. -/
  | newSession (session : Session)
  /-- Forget a session; if it is the current one, show nothing. -/
  | deleteSession (sessionId : String)
  /-- Tell the current session. -/
  | currentSession
  /-- Tell which stream is followed, for one who then waits for its end. -/
  | followed
deriving DecidableEq, Repr

/-- What came of a call. -/
inductive Outcome where
  | started
  | opened
  | done
  | failed (error : DeliveryError)
  /-- The current session, if there is one. -/
  | session (session : Option Session)
  /-- The follower of the stream that is followed, if there is one. -/
  | follower (index : Option Nat)
deriving DecidableEq, Repr

/-- Where a call stands between two of its segments. -/
inductive Progress where
  /-- It is its turn. -/
  | entered
  /-- It has asked that no more be delivered on the stream of this follower. -/
  | aborting (follower : Nat)
  /-- It waits until this follower is done. -/
  | joining (follower : Nat)
  /-- It waits for the conversation, to clear it. -/
  | clearing
  /-- It waits for the stream of a run, which is for this epoch. -/
  | starting (epoch : Nat)
  /-- It waits for a stored run. -/
  | fetching
  /-- It has a stored run and waits for the conversation, to show it. -/
  | showing (run : Run)
  /-- Its run cannot be had, and it waits for the conversation, to show that. -/
  | failing (error : DeliveryError)
deriving DecidableEq, Repr

/-- What the source of runs answers a call that waits for it. -/
inductive Answer where
  /-- Nothing was asked. -/
  | none
  | stream (result : Except DeliveryError Stream)
  | run (result : Except DeliveryError Run)

/-! ## The viewer -/

structure Viewer where
  conversation : Conversation
  session : Option Session
  /-- Every follower so far. -/
  followers : List Follower
  /-- The follower of the stream that was started last, until a call has taken it. -/
  current : Option Nat
  /-- The call that is being served. -/
  serving : Option (Call × Progress)
  /-- The calls that wait for their turn, the first one in front. -/
  waiting : List Call
deriving DecidableEq, Repr

/-- What a segment makes known, in order, and the outcome of the call that it completes. -/
structure Effects where
  changes : List Change := []
  notices : List Notice := []
  /-- The run whose stream the source of runs is asked to give up. -/
  abort : Option String := none
  outcome : Option Outcome := none
deriving DecidableEq, Repr

/-- A segment of one of the tasks, or something from outside. -/
inductive Segment where
  /-- A caller comes. -/
  | call (call : Call)
  /-- The next segment of the call that is being served. -/
  | serve (answer : Answer)
  /-- The next segment of a follower. -/
  | follow (follower : Nat)
  /-- Something arrives on the stream of a follower. -/
  | arrive (follower : Nat) (arrival : Arrival)
  /-- The stream of a follower is complete. -/
  | complete (follower : Nat)
  /-- A follower is cancelled through the handle of its stream. -/
  | cancel (follower : Nat)
  /-- The conversation is changed behind the back of the viewer. -/
  | write (update : Conversation.Update)

namespace Viewer

/-- A viewer that shows nothing yet. -/
def new (settings : Settings) : Viewer where
  conversation := .new settings
  session := none
  followers := []
  current := none
  serving := none
  waiting := []

def modifyFollower (v : Viewer) (index : Nat) (f : Follower → Follower) : Viewer :=
  { v with followers := v.followers.modify index f }

def write (v : Viewer) (update : Conversation.Update) : Viewer × List Change :=
  let (conversation, changes) := update v.conversation
  ({ v with conversation }, changes)

/-! ### Segments of a call -/

/-- The call goes on later. -/
def proceed (v : Viewer) (call : Call) (progress : Progress) : Viewer :=
  { v with serving := some (call, progress) }

/-- The call is complete, and the next one may have its turn. -/
def finish (v : Viewer) : Viewer := { v with serving := none }

/-- What a call does once no stream is followed any more. -/
def afterStop (v : Viewer) (call : Call) : Viewer × Effects :=
  match call with
  | .startRun _ | .reset | .newSession _ | .deleteSession _ => (v.proceed call .clearing, {})
  | .openRun _ => (v.proceed call .fetching, {})
  | .cancel | .currentSession | .followed => (v.finish, { outcome := some .done })

/-- Stop following: take the follower, cancel it, and ask that no more be delivered to it. -/
def stop (v : Viewer) (call : Call) : Viewer × Effects :=
  match v.current with
  | none => v.afterStop call
  | some index =>
    let cancelled := v.modifyFollower index fun f => { f with cancelled := true }
    ({ cancelled with current := none }.proceed call (.aborting index),
      { abort := v.followers[index]?.map Follower.runId })

/-- The first segment of a call. A session that is not the current one is forgotten without further
ado, and what is only told needs no more. -/
def enter (v : Viewer) (call : Call) : Viewer × Effects :=
  match call with
  | .deleteSession sessionId =>
    if v.session.any fun s => s.id = sessionId then v.stop call
    else (v.finish, { notices := [.sessionDeleted sessionId], outcome := some .done })
  | .currentSession => (v.finish, { outcome := some (.session v.session) })
  | .followed => (v.finish, { outcome := some (.follower v.current) })
  | call => v.stop call

/-- Clear the conversation, as the call asks. -/
def clear (v : Viewer) (call : Call) : Viewer × Effects :=
  match call with
  | .startRun runId =>
    let (v, changes) := v.write (Conversation.beginRun runId)
    (v.proceed call (.starting v.conversation.epoch), { changes })
  | .newSession session =>
    let (v, changes) := v.write Conversation.reset
    ({ v with session := some session }.finish,
      { changes, notices := [.sessionCreated session], outcome := some .done })
  | .deleteSession sessionId =>
    let (v, changes) := v.write Conversation.reset
    ({ v with session := none }.finish,
      { changes, notices := [.sessionDeleted sessionId], outcome := some .done })
  | .openRun _ | .cancel | .reset | .currentSession | .followed =>
    let (v, changes) := v.write Conversation.reset
    (v.finish, { changes, outcome := some .done })

/-- Follow a stream from now on. The handle of the stream is assumed to carry the run id that was
asked for, as it does with both sources of runs here. -/
def follow (v : Viewer) (runId : String) (epoch : Nat) (stream : Stream) : Viewer × Effects :=
  let follower := { runId, stream, epoch, cancelled := false, phase := .receiving }
  ({ v with followers := v.followers ++ [follower], current := some v.followers.length }.finish,
    { notices := [.runStarted runId], outcome := some .started })

/-- Show that a run cannot be had. Opening has not cleared the conversation before, starting has. -/
def fail (v : Viewer) (call : Call) (error : DeliveryError) : Viewer × Effects :=
  let frame := Frame.failure error.message
  let (v, changes) := match call with
    | .openRun runId =>
      v.write ((Conversation.beginRun runId).andThen (Conversation.ingest frame))
    | _ => v.write (Conversation.ingest frame)
  (v.finish, { changes, outcome := some (.failed error) })

/-- The next segment of a call, if it can go on. -/
def serve (v : Viewer) (call : Call) (progress : Progress) (answer : Answer) :
    Option (Viewer × Effects) :=
  match progress, answer with
  | .entered, _ => some (v.enter call)
  | .aborting index, _ => some (v.proceed call (.joining index), {})
  | .joining index, _ =>
    if v.followers[index]?.all Follower.isDone then some (v.afterStop call) else none
  | .clearing, _ => some (v.clear call)
  | .starting epoch, .stream result =>
    match call, result with
    | .startRun runId, .ok stream => some (v.follow runId epoch stream)
    | call, .error error => some (v.proceed call (.failing error), {})
    | _, _ => none
  | .starting _, _ => none
  | .fetching, .run (.ok run) => some (v.proceed call (.showing run), {})
  | .fetching, .run (.error error) => some (v.proceed call (.failing error), {})
  | .fetching, _ => none
  | .showing run, _ =>
    match call with
    | .openRun runId =>
      let (v, changes) := v.write (Conversation.load run)
      some (v.finish, { changes, notices := [.runOpened runId], outcome := some .opened })
    | _ => none
  | .failing error, _ => some (v.fail call error)

/-! ### Segments of a follower -/

/-- The follower is done, and says so. -/
def close (v : Viewer) (index : Nat) (f : Follower) : Viewer × Effects :=
  (v.modifyFollower index fun f => { f with phase := .closed },
    { notices := [.streamClosed f.runId] })

/-- The next segment of a follower, if it can go on. -/
def followNext (v : Viewer) (index : Nat) (f : Follower) : Option (Viewer × Effects) :=
  match f.phase with
  | .receiving =>
    if f.cancelled then some (v.close index f)
    else match f.stream.queue with
      | [] =>
        if f.stream.isOpen then none
        else some (v.modifyFollower index fun f => { f with phase := .ending }, {})
      | arrival :: queue =>
        let phase := match arrival with
          | .frame frame => .delivering frame
          | .failure error => .delivering (.failure error.message)
          | .crash => .crashed
        some (v.modifyFollower index fun f =>
          { f with phase, stream := { f.stream with queue } }, {})
  | .delivering frame =>
    if f.isSuperseded v.conversation then some (v.close index f)
    else
      let (v, changes) := v.write (Conversation.ingest frame)
      if frame.isFailure then
        let (v, effects) := v.close index f
        some (v, { effects with changes })
      else some (v.modifyFollower index fun f => { f with phase := .receiving }, { changes })
  | .ending =>
    let (v, changes) :=
      if f.isSuperseded v.conversation then (v, []) else v.write Conversation.endStream
    let (v, effects) := v.close index f
    some (v, { effects with changes })
  | .closed | .crashed => none

/-! ### Steps -/

/-- The call whose turn it is next, if none is being served. -/
def beginNext (v : Viewer) : Viewer :=
  match v.serving, v.waiting with
  | none, call :: waiting => { v with serving := some (call, .entered), waiting }
  | _, _ => v

/-- One segment, if it is possible now. -/
def step (v : Viewer) : Segment → Option (Viewer × Effects)
  | .call call => some ({ v with waiting := v.waiting ++ [call] }.beginNext, {})
  | .serve answer =>
    match v.serving with
    | some (call, progress) =>
      (v.serve call progress answer).map fun next => (next.1.beginNext, next.2)
    | none => none
  | .follow index =>
    match v.followers[index]? with
    | some f => v.followNext index f
    | none => none
  | .arrive index arrival =>
    match v.followers[index]? with
    | some f =>
      if f.stream.isOpen then
        some (v.modifyFollower index fun f =>
          { f with stream := { f.stream with queue := f.stream.queue ++ [arrival] } }, {})
      else none
    | none => none
  | .complete index =>
    some (v.modifyFollower index fun f => { f with stream := { f.stream with isOpen := false } },
      {})
  | .cancel index => some (v.modifyFollower index fun f => { f with cancelled := true }, {})
  | .write update =>
    let (v, changes) := v.write update
    some (v, { changes })

end Viewer

end Transcript
