import Transcript.Message.Encode

/-! # Notices

What the parts of an application that do not show the conversation learn about it: sessions come and
go, runs are started and opened, and streams end.
-/

namespace Transcript

/-- Something that happened to a session or a run. -/
inductive Notice where
  | sessionCreated (session : Session)
  | sessionDeleted (sessionId : String)
  | runStarted (runId : String)
  | runOpened (runId : String)
  | streamClosed (runId : String)
deriving DecidableEq, Repr

namespace Notice

def kindName : Notice → String
  | sessionCreated _ => "session_created"
  | sessionDeleted _ => "session_deleted"
  | runStarted _ => "run_started"
  | runOpened _ => "run_opened"
  | streamClosed _ => "stream_closed"

/-- What a notice says besides its kind. -/
def field : Notice → String × Json
  | sessionCreated session => ("session", session.toJson)
  | sessionDeleted sessionId => ("session_id", .str sessionId)
  | runStarted runId | runOpened runId | streamClosed runId => ("run_id", .str runId)

def toJson (n : Notice) : Json := .obj [("type", .str n.kindName), n.field]

/-- How many notices are kept for an observer that falls behind, where nothing else is said. -/
def defaultCapacity : Nat := 64

end Notice

end Transcript
