import Transcript.Viewer.Stage

/-! # Replaying a recorded run

The command line of this library: it shows a recorded run, from its log or, with `--history`, from
its stored form, and writes the conversation as JSON. A run that cannot be had is shown as a
conversation that says so; only a command line that makes no sense fails.
-/

namespace Transcript.Replay

/-- How the command line is to be written. -/
def usage : String := "usage: agentchat-replay <run_id> [--history]"

/-- What the command line asks for. -/
inductive Request where
  /-- To say how it is to be written. -/
  | help
  /-- To show a run, from its log or from its stored form. -/
  | run (runId : String) (stored : Bool)
deriving DecidableEq, Repr

/-- Why a command line makes no sense. -/
inductive ArgumentError where
  | missingRunId
  | unexpected (argument : String)
deriving DecidableEq, Repr

def ArgumentError.message : ArgumentError → String
  | missingRunId => usage
  | unexpected argument => "unexpected argument: " ++ argument ++ "\n" ++ usage

/-- Read the arguments that follow the ones already read. Asking for help counts as soon as it is
met, and a run id more than one is refused as soon as it is met. -/
def readFrom (runId : Option String) (stored : Bool) :
    List String → Except ArgumentError Request
  | [] =>
    match runId with
    | some runId => .ok (.run runId stored)
    | none => .error .missingRunId
  | argument :: rest =>
    if argument = "--history" then readFrom runId true rest
    else if argument = "-h" ∨ argument = "--help" then .ok .help
    else match runId with
      | none => readFrom (some argument) stored rest
      | some _ => .error (.unexpected argument)

def Request.ofArguments (arguments : List String) : Except ArgumentError Request :=
  readFrom none false arguments

/-- What the program writes, and the status with which it ends. Among the lines of `err` those of its
log are left out, which go there by default. -/
structure Output where
  status : Nat
  out : String
  err : List String
deriving DecidableEq, Repr

/-- The conversation that a run of a directory makes. -/
def snapshot (settings : Settings) (directory : RunDirectory) (now : Timestamp) (runId : String)
    (stored : Bool) : Snapshot :=
  let stage := Stage.new settings (.recorded directory) now settings.notifyCapacity
  let command : Stage.Command := if stored then .openRun runId else .startRun runId
  (stage.carryOut false command).1.viewer.conversation.snapshot

/-- What the program does with its arguments and its variables. Left out is that a notification
capacity of `2 ^ 63` or more, which the variables can ask for, makes it panic before it shows a run. -/
def run (arguments : List String) (lookup : String → Option String)
    (directoryAt : String → RunDirectory) (now : Timestamp) : Output :=
  match Request.ofArguments arguments with
  | .error error => ⟨1, "", ["Error: " ++ Text.Quoted.quote error.message]⟩
  | .ok .help => ⟨0, usage ++ "\n", []⟩
  | .ok (.run runId stored) =>
    let settings := Settings.ofLookup lookup
    let shown := snapshot settings (directoryAt settings.runDirectory) now runId stored
    ⟨0, shown.toJson.pretty ++ "\n", []⟩

end Transcript.Replay
