import Transcript.Conversation.Snapshot
import Transcript.Observer.Broadcast
import Transcript.Viewer.Source

/-! # A viewer on a fixed schedule

A stage is a viewer with its source of runs and one observer each of its changes and its notices.
Besides the followers of the viewer, its tasks are waiters, which ask the viewer what it follows and
wait until that follower is done. Commands come one at a time. A command first does its own work,
during which the tasks go on only where its call has to wait, for a follower or for its turn; then
every task goes on as far as it can, unless the command holds them. Of the many orders in which
tasks may run this is one, and it leaves nothing to chance.
-/

namespace Transcript

/-- A task that waits for the end of a stream. -/
inductive Waiter where
  /-- It has not run yet. -/
  | begun
  /-- It has asked what is followed, and waits for its turn. -/
  | asking
  /-- It was told what is followed, if anything is, and waits for that follower. -/
  | told (follower : Option Nat)
deriving DecidableEq, Repr

/-- A viewer and what surrounds it. -/
structure Stage where
  viewer : Viewer
  source : Source
  /-- The time at which everything happens. -/
  now : Timestamp
  changes : Broadcast Change
  /-- The place of the observer of changes. -/
  changesRead : Nat := 0
  notices : Broadcast Notice
  /-- The place of the observer of notices. -/
  noticesRead : Nat := 0
  /-- Every waiter so far. -/
  waiters : List Waiter := []
  /-- How many sessions were begun. -/
  sessions : Nat := 0

namespace Stage

/-- A stage before its first command. Both capacities are taken to be below `2 ^ 63`; there is no
stage of a larger one, as the program panics when it makes the broadcast. -/
def new (settings : Settings) (source : Source) (now : Timestamp) (noticeCapacity : Nat) :
    Stage where
  viewer := .new settings
  source
  now
  changes := .new settings.notifyCapacity
  notices := .new noticeCapacity

/-! ## Running the tasks -/

/-- Pass on what a segment makes known. -/
def absorb (s : Stage) (viewer : Viewer) (effects : Effects) : Stage :=
  { s with
    viewer
    source := match effects.abort with
      | some runId => s.source.abort runId
      | none => s.source
    changes := s.changes.publishAll effects.changes
    notices := s.notices.publishAll effects.notices }

/-- Run one segment, if it is possible; says what call it has completed. -/
def run? (s : Stage) (segment : Segment) : Option (Stage × Option Outcome) :=
  (s.viewer.step segment).map fun (viewer, effects) =>
    (s.absorb viewer effects, effects.outcome)

/-- Run one segment, or do nothing if it is not possible. -/
def run (s : Stage) (segment : Segment) : Stage :=
  match s.run? segment with
  | some (s, _) => s
  | none => s

/-- Run a follower until it waits for an arrival, for at most `segments` segments. -/
def runFollower (s : Stage) (index : Nat) : (segments : Nat) → Stage
  | 0 => s
  | segments + 1 =>
    match s.run? (.follow index) with
    | some (s, _) => s.runFollower index segments
    | none => s

/-- How many segments a follower can run at most before it has to wait: two for each arrival, and
three for the end. -/
def segmentsLeft (f : Follower) : Nat := 2 * f.stream.queue.length + 3

def runFollowers (s : Stage) : Stage :=
  s.viewer.followers.zipIdx.foldl (fun s (f, index) => s.runFollower index (segmentsLeft f)) s

/-- The waiters that have not run yet ask the viewer what it follows, in their order. -/
def askWaiters (s : Stage) : Stage :=
  s.waiters.foldl (fun s waiter => if waiter = .begun then s.run (.call .followed) else s)
    { s with waiters := s.waiters.map fun waiter => if waiter = .begun then .asking else waiter }

/-- Tell the first waiter that asks what is followed. -/
def tellFirst (follower : Option Nat) : List Waiter → List Waiter
  | [] => []
  | .asking :: rest => .told follower :: rest
  | waiter :: rest => waiter :: tellFirst follower rest

/-- Serve the waiters whose turn it is, at most `waiters` of them. -/
def serveWaiters (s : Stage) : (waiters : Nat) → Stage
  | 0 => s
  | waiters + 1 =>
    match s.viewer.serving with
    | some (.followed, _) =>
      match s.run? (.serve .none) with
      | some (s, some (.follower follower)) =>
        { s with waiters := tellFirst follower s.waiters }.serveWaiters waiters
      | _ => s
    | _ => s

/-- Every task goes on as far as it can. -/
def settle (s : Stage) : Stage :=
  let s := s.runFollowers.askWaiters
  s.serveWaiters s.waiters.length

/-- The most segments of a call: waiting for its turn, entering, giving up, joining with a wait,
clearing or fetching, starting or showing, and failing. -/
def callSegments : Nat := 8

/-- Serve the call of a command to its end, for at most `segments` segments. Where it waits, for a
follower or because it is the turn of a waiter, the tasks go on. -/
def serveCall (s : Stage) : (segments : Nat) → Stage × Option Outcome
  | 0 => (s, none)
  | segments + 1 =>
    match s.viewer.serving with
    | none => (s, none)
    | some (.followed, _) => s.settle.serveCall segments
    | some (call, progress) =>
      let (answer, source) := s.source.answer s.now call progress s.viewer.followers.length
      match { s with source }.run? (.serve answer) with
      | some (s, some outcome) => (s, some outcome)
      | some (s, none) => s.serveCall segments
      | none => s.settle.serveCall segments

def call (s : Stage) (c : Call) : Stage × Option Outcome :=
  (s.run (.call c)).serveCall callSegments

/-! ## Feeding streams -/

/-- The follower that took the stream of a run last, if no new stream of it waits. -/
def takenBy (feeds : Feeds) (runId : String) : Option Nat :=
  match feeds.waiting.get? runId with
  | some _ => none
  | none => feeds.taken.get? runId

/-- Put a stream without arrivals under a run id. One that was taken earlier is complete. -/
def feed (s : Stage) (runId : String) : Stage :=
  match s.source with
  | .recorded _ => s
  | .fed feeds =>
    let s := match feeds.taken.get? runId with
      | some index => s.run (.complete index)
      | none => s
    { s with source := .fed { feeds with waiting := feeds.waiting.set runId ⟨[], true⟩ } }

/-- Let something arrive on the stream of a run; says whether anyone can still read it. -/
def send (s : Stage) (runId : String) (arrival : Arrival) : Stage × Bool :=
  match s.source with
  | .recorded _ => (s, false)
  | .fed feeds =>
    match feeds.waiting.get? runId, takenBy feeds runId with
    | some stream, _ =>
      if stream.isOpen then
        let stream := { stream with queue := stream.queue ++ [arrival] }
        ({ s with source := .fed { feeds with waiting := feeds.waiting.set runId stream } }, true)
      else (s, false)
    | none, some index =>
      if s.viewer.followers[index]?.any fun f => !f.isDone && f.stream.isOpen then
        (s.run (.arrive index arrival), true)
      else (s, false)
    | none, none => (s, false)

def sendAll (s : Stage) (runId : String) : List Arrival → Stage × List Bool
  | [] => (s, [])
  | arrival :: rest =>
    let (s, sent) := s.send runId arrival
    let (s, others) := s.sendAll runId rest
    (s, sent :: others)

/-- Complete the stream of a run; says whether it was not complete before. -/
def completeFeed (s : Stage) (runId : String) : Stage × Bool :=
  match s.source with
  | .recorded _ => (s, false)
  | .fed feeds =>
    match feeds.waiting.get? runId, takenBy feeds runId with
    | some stream, _ =>
      let closed := { stream with isOpen := false }
      ({ s with source := .fed { feeds with waiting := feeds.waiting.set runId closed } },
        stream.isOpen)
    | none, some index =>
      (s.run (.complete index), s.viewer.followers[index]?.any fun f => f.stream.isOpen)
    | none, none => (s, false)

/-- Whether nobody can read the stream of a run any more. -/
def isUnread (s : Stage) (runId : String) : Bool :=
  match s.source with
  | .recorded _ => true
  | .fed feeds =>
    match feeds.waiting.get? runId, takenBy feeds runId with
    | some _, _ => false
    | none, some index => s.viewer.followers[index]?.all Follower.isDone
    | none, none => true

/-! ## Commands -/

/-- The follower of the last start of a run. -/
def followerOf? (s : Stage) (runId : String) : Option (Follower × Nat) :=
  s.viewer.followers.zipIdx.reverse.find? fun (f, _) => f.runId = runId

/-- Whether a wait for a follower, if any, is over. -/
def isOver (s : Stage) (follower : Option Nat) : Bool :=
  match follower with
  | some index => s.viewer.followers[index]?.all Follower.isDone
  | none => true

def hasReturned (s : Stage) : Waiter → Bool
  | .begun | .asking => false
  | .told follower => s.isOver follower

inductive Command where
  /-- Put a new stream under a run id. -/
  | feed (runId : String)
  /-- Let things arrive on the stream of a run. -/
  | send (runId : String) (arrivals : List Arrival)
  /-- Complete the stream of a run. -/
  | complete (runId : String)
  /-- Ask whether nobody can read the stream of a run. -/
  | isUnread (runId : String)
  | startRun (runId : String)
  | openRun (runId : String)
  | cancel
  | reset
  /-- Ask whether the stream that is followed is over. -/
  | isOver
  /-- Start a task that waits for the end of the stream that is followed. -/
  | await
  /-- Ask whether such a task is done. -/
  | hasReturned (waiter : Nat)
  /-- Cancel the last follower of a run through the handle of its stream. -/
  | cancelHandle (runId : String)
  /-- Ask whether the last follower of a run was cancelled. -/
  | isCancelled (runId : String)
  | newSession (agentId name : String)
  | deleteSession (sessionId : String)
  | currentSession
  /-- Start the conversation again behind the back of the viewer. -/
  | resetConversation
  | snapshot
  /-- Ask for the runs whose streams were given up. -/
  | aborted
deriving DecidableEq, Repr

inductive Reply where
  | nothing
  | flag (value : Bool)
  | flags (values : List Bool)
  | number (value : Nat)
  | names (values : List String)
  | session (value : Option Session)
  | outcome (value : Option Outcome)
  | snapshot (value : Snapshot)
deriving DecidableEq, Repr

/-- A session as the stage numbers it. -/
def nextSession (s : Stage) (agentId name : String) : Session where
  id := "S" ++ toString (s.sessions + 1)
  agentId
  name
  createdAt := s.now

/-- Start a run. A recorded stream is followed to its end at once. -/
def startRun (s : Stage) (runId : String) : Stage × Option Outcome :=
  let (s, outcome) := s.call (.startRun runId)
  (if s.source.isRecorded then s.settle else s, outcome)

/-- The work of a command itself. -/
def perform (s : Stage) : Command → Stage × Reply
  | .feed runId => (s.feed runId, .nothing)
  | .send runId arrivals =>
    let (s, sent) := s.sendAll runId arrivals
    (s, .flags sent)
  | .complete runId =>
    let (s, wasOpen) := s.completeFeed runId
    (s, .flag wasOpen)
  | .isUnread runId => (s, .flag (s.isUnread runId))
  | .startRun runId =>
    let (s, outcome) := s.startRun runId
    (s, .outcome outcome)
  | .openRun runId =>
    let (s, outcome) := s.call (.openRun runId)
    (s, .outcome outcome)
  | .cancel => ((s.call .cancel).1, .nothing)
  | .reset => ((s.call .reset).1, .nothing)
  | .isOver =>
    let s := s.settle
    (s, .flag (s.isOver s.viewer.current))
  | .await => ({ s with waiters := s.waiters ++ [.begun] }, .number s.waiters.length)
  | .hasReturned waiter =>
    let s := s.settle
    (s, .flag (s.waiters[waiter]?.all s.hasReturned))
  | .cancelHandle runId =>
    match s.followerOf? runId with
    | some (_, index) => (s.run (.cancel index), .nothing)
    | none => (s, .nothing)
  | .isCancelled runId => (s, .flag ((s.followerOf? runId).any fun (f, _) => f.cancelled))
  | .newSession agentId name =>
    let session := s.nextSession agentId name
    ({ (s.call (.newSession session)).1 with sessions := s.sessions + 1 },
      .session (some session))
  | .deleteSession sessionId => ((s.call (.deleteSession sessionId)).1, .nothing)
  | .currentSession =>
    let (s, outcome) := s.call .currentSession
    (s, .session (match outcome with
      | some (.session session) => session
      | _ => none))
  | .resetConversation => (s.run (.write Conversation.reset), .nothing)
  | .snapshot => (s, .snapshot s.viewer.conversation.snapshot)
  | .aborted =>
    (s, .names (match s.source with
      | .fed feeds => feeds.aborted
      | .recorded _ => []))

/-- Carry out a command; unless the tasks are held, they go on afterwards. -/
def carryOut (s : Stage) (hold : Bool) (command : Command) : Stage × Reply :=
  let (s, reply) := s.perform command
  (if hold then s else s.settle, reply)

/-- What the two observers read until nothing is left. -/
def observe (s : Stage) : List (Received Change) × List (Received Notice) × Stage :=
  (s.changes.receiveAll s.changesRead, s.notices.receiveAll s.noticesRead,
    { s with changesRead := s.changes.published, noticesRead := s.notices.published })

end Stage

end Transcript
