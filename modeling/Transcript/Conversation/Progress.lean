import Transcript.Stream.Event

/-! # How events move the status

A failure is final until the conversation starts again. Otherwise text that grows means thinking, a
message that may end a turn means that the user has to answer or that the run is ready, and traces,
memories and unknown payloads say nothing.
-/

namespace Transcript.Status

def after (s : Status) (e : Event) : Status :=
  match s, e with
  | .error, _ => .error
  | _, .error .. => .error
  | _, .delta .. => .thinking
  | _, .text .. | _, .toolCalls .. | _, .toolResults .. | _, .taskSummary .. =>
    if e.awaitsInput then .awaitingInput else .ready
  | s, .modelTrace .. | s, .memories .. | s, .other .. => s

/-- The status after the end of a stream: nobody is thinking any more. -/
def settled : Status → Status
  | .thinking => .ready
  | s => s

def change? (old new : Status) : Option Status :=
  if new = old then none else some new

@[simp] theorem settled_ne_thinking (s : Status) : s.settled ≠ .thinking := by
  cases s <;> decide

end Transcript.Status
