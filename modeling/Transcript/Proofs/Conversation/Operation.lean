import Transcript.Conversation.Basic
import Mathlib.Data.List.Induction

/-! # Runs of operations

A conversation is reached from its beginning by operations of two sorts: inputs, which the stream of
a run brings, and restarts. `feed` takes inputs only, `run` takes both. What every operation keeps,
every run keeps (`run_invariant`), and a run can be cut anywhere (`Update.all_append`).
-/

namespace Transcript.Conversation

inductive Input where
  | frame (frame : Frame)
  /-- The stream has ended. -/
  | ended
deriving DecidableEq, Repr

inductive Restart where
  | reset
  | beginRun (runId : String)
  | load (run : Run)
deriving DecidableEq, Repr

inductive Operation where
  | input (input : Input)
  | restart (restart : Restart)
deriving DecidableEq, Repr

def Input.update : Input → Update
  | .frame unit => ingest unit
  | .ended => endStream

def Restart.update : Restart → Update
  | .reset => Conversation.reset
  | .beginRun runId => Conversation.beginRun runId
  | .load stored => Conversation.load stored

def Operation.update : Operation → Update
  | .input x => x.update
  | .restart again => again.update

def feed (inputs : List Input) : Update := Update.all (inputs.map Input.update)

def run (operations : List Operation) : Update := Update.all (operations.map Operation.update)

/-- How a conversation without messages comes about; `new` takes nothing but settings over. -/
inductive Beginning where
  | new
  | reset
  | beginRun (runId : String)
deriving DecidableEq, Repr

/-- The conversation that begins in place of an earlier one. -/
def Beginning.conversation (c : Conversation) : Beginning → Conversation
  | .new => Conversation.new c.settings
  | .reset => (Conversation.reset c).1
  | .beginRun runId => (Conversation.beginRun runId c).1

/-! ## Cutting a run -/

@[simp] theorem Update.andThen_fst (first second : Update) (c : Conversation) :
    (first.andThen second c).1 = (second (first c).1).1 := rfl

theorem Update.all_append (before after : List Update) (c : Conversation) :
    Update.all (before ++ after) c = (Update.all before).andThen (Update.all after) c := by
  induction before generalizing c with
  | nil => rfl
  | cons update rest ih =>
    simp only [List.cons_append, Update.all, Update.andThen, ih, List.append_assoc]

theorem feed_append (before after : List Input) (c : Conversation) :
    (feed (before ++ after) c).1 = (feed after (feed before c).1).1 := by
  rw [feed, List.map_append, Update.all_append]
  rfl

theorem feed_concat (inputs : List Input) (input : Input) (c : Conversation) :
    (feed (inputs ++ [input]) c).1 = (input.update (feed inputs c).1).1 := by
  rw [feed_append]
  rfl

/-- What every operation keeps holds after every run. -/
theorem run_invariant {P : Conversation → Prop} {c : Conversation} (initial : P c)
    (step : ∀ current operation, P current → P (Operation.update operation current).1)
    (operations : List Operation) : P (run operations c).1 := by
  induction operations generalizing c with
  | nil => exact initial
  | cons operation rest ih => exact ih (step c operation initial)

end Transcript.Conversation
