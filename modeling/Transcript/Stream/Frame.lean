import Transcript.Json.Reader
import Transcript.Text.Blank

/-! # Frames

What the connection of a run delivers, one unit at a time: a piece of text that is still growing, an
envelope with a JSON value, or the news that the connection failed. `Frame.ofText` tells the first
two apart in one line of text: an object is an envelope, everything else is text, kept as it is.
-/

namespace Transcript

/-- One unit of a run's stream. -/
inductive Frame where
  /-- A piece of text, from a source that may be left open. -/
  | delta (source : Option String) (text : String)
  | envelope (value : Json)
  /-- The connection failed. -/
  | failure (message : String)
deriving DecidableEq, Repr

namespace Frame

/-- The frame that a chunk of text stands for. A chunk whose first character that is not blank opens
no object cannot be one, and is not read any further. -/
def ofText (chunk : String) : Frame :=
  if (Text.trimStart chunk.toList).head? = some '{' then
    match Json.parse chunk with
    | .ok (.obj fields) => .envelope (.obj fields)
    | _ => .delta none chunk
  else .delta none chunk

/-- Whether nothing can follow this frame. -/
def isFailure : Frame → Bool
  | .failure _ => true
  | _ => false

end Frame

end Transcript
