import Transcript.Storage.Path
import Transcript.Text.Pieces

/-! # Settings

What a conversation is told about its surroundings, read from named texts such as the variables of
an environment. A setting that is missing, or that does not make sense, keeps its default.
-/

namespace Transcript

structure Settings where
  /-- The source of text and failures that name none. -/
  defaultSource : String
  /-- The sources that are not shown. -/
  hiddenSources : List String
  /-- How many notifications are kept for an observer that falls behind. -/
  notifyCapacity : Nat
  /-- The directory with the recorded runs. -/
  runDirectory : String
deriving DecidableEq, Repr

namespace Settings

/-- The settings where nothing else is said. -/
def default : Settings where
  defaultSource := "assistant"
  hiddenSources := ["system", "proxy"]
  notifyCapacity := 256
  runDirectory := "."

instance : Inhabited Settings := ⟨default⟩

/-- A capacity: decimal digits, with a plus sign or none before them, for a positive number of at
most 64 bits. -/
def capacity? (text : String) : Option Nat :=
  let digits := match text.toList with
    | '+' :: digits => digits
    | digits => digits
  let value := digits.foldl (fun n c => n * 10 + (c.toNat - '0'.toNat)) 0
  if !digits.isEmpty && digits.all Char.isDigit && 0 < value && value < UInt64.size then some value
  else none

/-- The settings that named texts give. -/
def ofLookup (lookup : String → Option String) : Settings where
  defaultSource :=
    ((lookup "AGENTCHAT_DEFAULT_SOURCE").filter fun s => !Text.isAllBlank s).getD
      default.defaultSource
  hiddenSources :=
    ((lookup "AGENTCHAT_HIDDEN_SOURCES").map (Text.entries ',')).getD default.hiddenSources
  notifyCapacity :=
    ((lookup "AGENTCHAT_NOTIFY_CAPACITY").bind capacity?).getD default.notifyCapacity
  runDirectory := (lookup "AGENTCHAT_RUN_DIR").getD default.runDirectory

/-- Whether the settings are the default, where the directory of the recorded runs may be another
text of the same path. -/
def isDefault (settings : Settings) : Bool :=
  Path.steps settings.runDirectory = Path.steps default.runDirectory &&
    { settings with runDirectory := default.runDirectory } = default

def isHidden (settings : Settings) (source : String) : Bool :=
  settings.hiddenSources.contains source

end Settings

end Transcript
