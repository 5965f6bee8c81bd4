import Transcript.Keyed
import Transcript.Viewer.Basic

/-! # Where runs come from

A source of runs is a directory of recorded runs, or a set of streams that are fed by hand together
with a list of stored runs. A stream that is fed by hand waits under its run id until a viewer takes
it, and can be fed before and after that. A run for which a failure is given can be neither started
nor opened.
-/

namespace Transcript

/-- Streams that are fed by hand, and stored runs. -/
structure Feeds where
  /-- The streams that no viewer has taken yet, by run id. -/
  waiting : Keyed String Stream := ∅
  /-- The follower that took the stream of a run id last. -/
  taken : Keyed String Nat := ∅
  runs : List Run := []
  /-- The runs that can be neither started nor opened, and why. -/
  failures : Keyed String DeliveryError := ∅
  /-- The runs whose streams were given up, in order. -/
  aborted : List String := []
deriving DecidableEq, Repr

namespace Feeds

/-- Take the stream of a run for a follower. -/
def start (s : Feeds) (runId : String) (follower : Nat) : Except DeliveryError Stream × Feeds :=
  match s.failures.get? runId, s.waiting.get? runId with
  | some error, _ => (.error error, s)
  | none, none => (.error (.runNotFound runId), s)
  | none, some stream =>
    (.ok stream,
      { s with waiting := s.waiting.erase runId, taken := s.taken.set runId follower })

/-- The stored run of an id; of several, the one given last. -/
def fetch (s : Feeds) (runId : String) : Except DeliveryError Run :=
  match s.failures.get? runId, s.runs.reverse.find? fun run => run.id = runId with
  | some error, _ => .error error
  | none, some run => .ok run
  | none, none => .error (.runNotFound runId)

end Feeds

inductive Source where
  | fed (feeds : Feeds)
  | recorded (directory : RunDirectory)

namespace Source

/-- The stream of a log, with all of its frames. -/
def logStream (frames : List (Except DeliveryError Frame)) : Stream where
  queue := frames.map fun
    | .ok frame => .frame frame
    | .error error => .failure error
  isOpen := false

/-- Take the stream of a run for a follower. -/
def start (s : Source) (runId : String) (follower : Nat) : Except DeliveryError Stream × Source :=
  match s with
  | .fed feeds =>
    let (result, feeds) := feeds.start runId follower
    (result, .fed feeds)
  | .recorded directory => ((directory.logFrames runId).map logStream, s)

/-- The stored run of an id. -/
def fetch (s : Source) (now : Timestamp) (runId : String) : Except DeliveryError Run :=
  match s with
  | .fed feeds => feeds.fetch runId
  | .recorded directory => directory.fetchRun now runId

/-- Give up the stream of a run. A log is read no further without being told. -/
def abort (s : Source) (runId : String) : Source :=
  match s with
  | .fed feeds => .fed { feeds with aborted := feeds.aborted ++ [runId] }
  | .recorded _ => s

/-- Whether the streams are complete from the start. -/
def isRecorded : Source → Bool
  | .fed _ => false
  | .recorded _ => true

/-- What the source answers a call that waits for it. -/
def answer (s : Source) (now : Timestamp) (call : Call) (progress : Progress) (follower : Nat) :
    Answer × Source :=
  match call, progress with
  | .startRun runId, .starting _ =>
    let (result, s) := s.start runId follower
    (.stream result, s)
  | .openRun runId, .fetching => (.run (s.fetch now runId), s)
  | _, _ => (.none, s)

end Source

end Transcript
