import Transcript.Text.Pieces

/-! # Paths

A path as the steps it takes from one directory to the next. Slashes in a row, a slash at the end
and a dot that is not the first name take no step, so that texts that differ in these alone are one
path.
-/

namespace Transcript.Path

inductive Step where
  /-- To the root, as the first step of a path that starts with a slash. -/
  | root
  /-- To nowhere else, as the first step of a path that starts with a dot. -/
  | here
  /-- To the directory above. -/
  | up
  /-- To what has the name. -/
  | name (name : String)
deriving DecidableEq, Repr

/-- The step that a name between slashes takes, wherever it stands. -/
def Step.ofName? (name : String) : Option Step :=
  if name = "" ∨ name = "." then none
  else if name = ".." then some .up
  else some (.name name)

def steps (path : String) : List Step :=
  let start := match path.toList with
    | '/' :: _ => [.root]
    | ['.'] | '.' :: '/' :: _ => [.here]
    | _ => []
  start ++ (Text.pieces '/' path.toList).filterMap fun name => Step.ofName? (String.ofList name)

/-- The path of a name in the directory of a path. -/
def join (directory name : String) : String :=
  if directory = "" ∨ directory.toList.getLast? = some '/' then directory ++ name
  else directory ++ "/" ++ name

end Transcript.Path
