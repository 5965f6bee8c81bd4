import Transcript.Storage.Path
import Transcript.Storage.RunFile
import Transcript.Storage.RunLog
import Transcript.Text.Pieces

/-! # A directory of recorded runs

For a run id, `<id>.jsonl` holds the log of the run and `<id>.json` the stored run. A run id that
could name anything outside the directory has no file. What is known of the directory is what comes
of opening and reading a file by its name.
-/

namespace Transcript

/-- Why a file cannot be opened or read. -/
inductive FileError where
  | isDirectory
  | notDirectory
  | nameTooLong
  | nulInName
  /-- The file is not UTF-8 throughout. -/
  | notText
  /-- A line of the file is not UTF-8. -/
  | lineNotText (fault : Text.Utf8.Fault)
  /-- Any other reason, in the words of the operating system. -/
  | other (words : String)
deriving DecidableEq, Repr

def FileError.message : FileError → String
  | isDirectory => "Is a directory (os error 21)"
  | notDirectory => "Not a directory (os error 20)"
  | nameTooLong => "File name too long (os error 36)"
  | nulInName => "file name contained an unexpected NUL byte"
  | notText => "stream did not contain valid UTF-8"
  | lineNotText (.malformed index length) =>
    "invalid utf-8 sequence of " ++ toString length ++ " bytes from index " ++ toString index
  | lineNotText (.incomplete index) =>
    "incomplete utf-8 byte sequence from index " ++ toString index
  | other words => words

/-- Why a run or its frames cannot be had. -/
inductive DeliveryError where
  | runNotFound (runId : String)
  | connection (words : String)
  | file (error : FileError)
  | run (error : RunFileError)
  /-- The stream was given up. -/
  | aborted
deriving DecidableEq, Repr

def DeliveryError.message : DeliveryError → String
  | runNotFound runId => "Run not found: " ++ runId
  | connection words => "Connection failed: " ++ words
  | file error => "I/O error: " ++ error.message
  | run error => "Failed to decode run: " ++ error.message
  | aborted => "Stream aborted"

/-- What comes of opening and reading a file. -/
inductive FileContent where
  /-- There is no such file. -/
  | absent
  /-- It cannot be opened. -/
  | unopened (error : FileError)
  /-- It can be opened, but not read. -/
  | unreadable (error : FileError)
  | bytes (bytes : List UInt8)
deriving DecidableEq, Repr

/-- A directory, by what its files hold. -/
structure RunDirectory where
  read : String → FileContent

namespace RunDirectory

/-- Whether a run id names a file of the directory. -/
def isFileId (runId : String) : Bool :=
  !(runId == "" || runId == "." || runId == ".." || runId.toList.contains '/' ||
    runId.toList.contains '\\')

/-- What the file of a run with the given extension holds. -/
def content (d : RunDirectory) (runId extension : String) : FileContent :=
  if isFileId runId then d.read (runId ++ "." ++ extension) else .absent

def fetchRun (d : RunDirectory) (now : Timestamp) (runId : String) : Except DeliveryError Run :=
  match d.content runId "json" with
  | .absent => .error (.runNotFound runId)
  | .unopened error | .unreadable error => .error (.file error)
  | .bytes bytes =>
    match Text.Utf8.decode bytes with
    | .error _ => .error (.file .notText)
    | .ok text => (Run.ofText now text).mapError .run

/-- The frames of the log of a run, and last what is wrong with the log, if anything is. -/
def logFrames (d : RunDirectory) (runId : String) :
    Except DeliveryError (List (Except DeliveryError Frame)) :=
  match d.content runId "jsonl" with
  | .absent => .error (.runNotFound runId)
  | .unopened error => .error (.file error)
  | .unreadable error => .ok [.error (.file error)]
  | .bytes bytes =>
    .ok ((RunLog.frames bytes).map fun frame =>
      frame.mapError fun fault => .file (.lineNotText fault))

end RunDirectory

/-- Something at a path. -/
inductive DirectoryEntry where
  | file (bytes : List UInt8)
  | directory
deriving DecidableEq, Repr

/-- What lies below a directory, by path. The directories on the way to an entry are there without
being entries themselves. -/
abbrev FileTree : Type := List (List String × DirectoryEntry)

namespace FileTree

/-- The tree of the given entries, each with the names of its path between slashes. -/
def ofEntries (entries : List (String × DirectoryEntry)) : FileTree :=
  entries.map fun (path, entry) =>
    (((Text.pieces '/' path.toList).map String.ofList).filter fun name => name ≠ "", entry)

/-- The longest name of a file, in bytes. -/
def longestName : Nat := 255

/-- The longest path, in bytes. -/
def longestPath : Nat := 4095

/-- Why no file can be looked for at a path, if that is so. -/
def pathError? (path : String) : Option FileError :=
  if path.toList.contains '\x00' then some .nulInName
  else if longestPath < path.utf8ByteSize then some .nameTooLong
  else none

/-- A directory, as seen from a tree. -/
inductive Place where
  /-- The directory at a path of the tree. -/
  | inside (path : List String)
  /-- A directory outside the tree, of which nothing is known but that it is there. -/
  | outside
deriving DecidableEq, Repr

def Place.up : Place → Place
  | inside [] | outside => outside
  | inside path => inside path.dropLast

def Place.below : Place → String → Place
  | inside path, name => inside (path ++ [name])
  | outside, _ => outside

/-- What the file of a name holds in a directory. Outside the tree there is nothing, but a name that
is too long is not looked for there either. -/
def content (t : FileTree) (place : Place) (name : String) : FileContent :=
  if longestName < name.utf8ByteSize then .unopened .nameTooLong
  else match place with
    | .outside => .absent
    | .inside path =>
      let path := path ++ [name]
      match t.lookup path with
      | some (.file bytes) => .bytes bytes
      | some .directory => .unreadable .isDirectory
      | none =>
        if t.any fun entry => path.isPrefixOf entry.1 then .unreadable .isDirectory else .absent

/-- The directory that a step leads to, or else what comes of opening any file beyond the step. -/
def enter (t : FileTree) (place : Place) : Path.Step → Except FileContent Place
  | .root => .ok .outside
  | .here => .ok place
  | .up => .ok place.up
  | .name name =>
    match t.content place name with
    | .unreadable _ => .ok (place.below name)
    | .bytes _ => .error (.unopened .notDirectory)
    | content => .error content

end FileTree

namespace RunDirectory

/-- The directory at a path, which starts at the top of a tree. A path that is too long for one of
its files is refused before any step of it is taken. -/
def atPath (t : FileTree) (path : String) : RunDirectory where
  read name :=
    match FileTree.pathError? (Path.join path name) with
    | some error => .unopened error
    | none =>
      match (Path.steps path).foldlM t.enter (.inside []) with
      | .ok place => t.content place name
      | .error content => content

/-- The directory at the top of a tree. -/
def ofTree (t : FileTree) : RunDirectory := atPath t ""

end RunDirectory

end Transcript
