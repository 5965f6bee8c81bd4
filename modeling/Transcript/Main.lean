import Transcript.Replay

/-! # The replay program

Gathers what a replay needs, the environment and the one file of the run, hands it to
`Transcript.Replay.run` and writes what comes of it.
-/

namespace Transcript.Main

/-- The number of a system error, whose sign depends on the call that failed. -/
def errorNumber (code : UInt32) : UInt32 := min code (0 - code)

/-- What a failure to read a file says of the file. -/
def contentOfFailure : IO.Error → FileContent
  | .noFileOrDirectory .. => .absent
  | .inappropriateType _ code _ =>
    if errorNumber code = 21 then .unreadable .isDirectory else .unopened .notDirectory
  | .invalidArgument _ code words =>
    .unopened (if errorNumber code = 36 then .nameTooLong else .other words)
  | .permissionDenied _ _ words => .unopened (.other (words.capitalize ++ " (os error 13)"))
  | failure => .unopened (.other (toString failure))

def readFile (path : String) : IO FileContent := do
  match FileTree.pathError? path with
  | some error => return .unopened error
  | none =>
    try
      return .bytes (← IO.FS.readBinFile path).toList
    catch failure => return contentOfFailure failure

/-- The part of a directory that a command line needs. -/
def readDirectory (arguments : List String) (directory : String) : IO RunDirectory := do
  match Replay.Request.ofArguments arguments with
  | .ok (.run runId stored) =>
    if RunDirectory.isFileId runId then
      let name := runId ++ (if stored then ".json" else ".jsonl")
      let content ← readFile (Path.join directory name)
      return ⟨fun asked => if asked = name then content else .absent⟩
    else return ⟨fun _ => .absent⟩
  | _ => return ⟨fun _ => .absent⟩

/-- What an environment calls the settings. -/
def settingNames : List String :=
  ["AGENTCHAT_DEFAULT_SOURCE", "AGENTCHAT_HIDDEN_SOURCES", "AGENTCHAT_NOTIFY_CAPACITY",
    "AGENTCHAT_RUN_DIR"]

end Transcript.Main

open Transcript in
def main (arguments : List String) : IO UInt32 := do
  let environment ← Main.settingNames.filterMapM fun name => do
    return (← IO.getEnv name).map fun value => (name, value)
  let settings := Settings.ofLookup fun name => environment.lookup name
  let directory ← Main.readDirectory arguments settings.runDirectory
  let output :=
    Replay.run arguments (fun name => environment.lookup name) (fun _ => directory) Timestamp.epoch
  IO.print output.out
  for line in output.err do IO.eprintln line
  return output.status.toUInt32
