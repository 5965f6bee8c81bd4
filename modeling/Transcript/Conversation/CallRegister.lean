import Transcript.Keyed
import Transcript.Message.Basic

/-! # Which result answers which call

A request opens a scope for its source: one record for each call id, in the order of the calls. A
result is matched with the call of its id in the scope that its source opened last, and the first
answer stays. When a source makes another request its earlier scope is sealed: its records can still
be read, under the number of the message that opened it, and never change again.
-/

namespace Transcript

/-- A call and, once there is one, its result. -/
structure ToolRecord where
  call : ToolCall
  result : Option ToolResult
deriving DecidableEq, Repr

namespace ToolRecord

def pending (call : ToolCall) : ToolRecord := ⟨call, none⟩

def isResolved (r : ToolRecord) : Bool := r.result.isSome

end ToolRecord

/-- The calls of one request. -/
structure ToolScope where
  /-- The number of the message with the request. -/
  trigger : Nat
  records : List ToolRecord
deriving DecidableEq, Repr

namespace ToolScope

def start (trigger : Nat) : ToolScope := ⟨trigger, []⟩

def indexOf? (s : ToolScope) (id : String) : Option Nat :=
  s.records.findIdx? fun r => r.call.id = id

/-- The scope with a call, unless its id is there already. -/
def add (s : ToolScope) (call : ToolCall) : ToolScope :=
  match s.indexOf? call.id with
  | some _ => s
  | none => { s with records := s.records ++ [.pending call] }

def addAll (s : ToolScope) (calls : List ToolCall) : ToolScope := calls.foldl add s

def unresolved (s : ToolScope) : List ToolRecord := s.records.filter fun r => !r.isResolved

end ToolScope

/-- The scopes of one source. -/
structure ToolHistory where
  /-- The scope opened last, the only one that results can reach. -/
  active : ToolScope
  /-- The scopes before, the latest one first. -/
  sealed : List ToolScope
deriving DecidableEq, Repr

inductive RequestOutcome where
  /-- It opened a scope. -/
  | opened
  /-- It is the request of the open scope; calls with new ids were added. -/
  | extended
  /-- It is older than the open scope and was ignored. -/
  | stale
deriving DecidableEq, Repr

/-- What became of a result. -/
inductive ResolveOutcome where
  /-- It answers a call. -/
  | correlated
  /-- The call has an answer, which stays. -/
  | alreadyResolved
  /-- No call of that id is open. -/
  | orphaned
deriving DecidableEq, Repr

/-- The scopes of every source. -/
structure CallRegister where
  histories : Keyed String ToolHistory := ∅
deriving DecidableEq, Repr

namespace CallRegister

def empty : CallRegister := ⟨∅⟩

instance : EmptyCollection CallRegister := ⟨empty⟩

instance : Inhabited CallRegister := ⟨empty⟩

/-- The scope that a source opened last. -/
def active? (l : CallRegister) (source : String) : Option ToolScope :=
  (l.histories.get? source).map ToolHistory.active

/-- The number of the message that opened the last scope of a source. -/
def activeTrigger? (l : CallRegister) (source : String) : Option Nat :=
  (l.active? source).map ToolScope.trigger

def request (l : CallRegister) (source : String) (trigger : Nat) (calls : List ToolCall) :
    CallRegister × RequestOutcome :=
  match l.histories.get? source with
  | none => (⟨l.histories.set source ⟨(ToolScope.start trigger).addAll calls, []⟩⟩, .opened)
  | some history =>
    if trigger < history.active.trigger then (l, .stale)
    else if trigger = history.active.trigger then
      (⟨l.histories.set source { history with active := history.active.addAll calls }⟩, .extended)
    else
      (⟨l.histories.set source
        ⟨(ToolScope.start trigger).addAll calls, history.active :: history.sealed⟩⟩, .opened)

def resolve (l : CallRegister) (source : String) (result : ToolResult) :
    CallRegister × ResolveOutcome :=
  match l.histories.get? source with
  | none => (l, .orphaned)
  | some history =>
    match history.active.indexOf? result.callId with
    | none => (l, .orphaned)
    | some index =>
      match history.active.records[index]? with
      | none => (l, .orphaned)
      | some record =>
        if record.isResolved then (l, .alreadyResolved)
        else
          let records := history.active.records.set index { record with result := some result }
          (⟨l.histories.set source { history with active := { history.active with records } }⟩,
            .correlated)

/-- The records of the request of a message, in the order of its calls. -/
def recordsFor (l : CallRegister) (source : String) (message : Nat) : List ToolRecord :=
  match l.histories.get? source with
  | none => []
  | some history =>
    if history.active.trigger = message then history.active.records
    else match history.sealed.find? fun scope => scope.trigger = message with
      | some scope => scope.records
      | none => []

/-- The records of the last scope of a source that wait for a result. -/
def unresolvedOf (l : CallRegister) (source : String) : List ToolRecord :=
  ((l.active? source).map ToolScope.unresolved).getD []

/-- The sources with scopes, in the order of their names. -/
def sources (l : CallRegister) : List String :=
  l.histories.keys.mergeSort fun a b => a ≤ b

def unresolved (l : CallRegister) : List (String × ToolRecord) :=
  l.sources.flatMap fun source => (l.unresolvedOf source).map fun record => (source, record)

def isEmpty (l : CallRegister) : Bool :=
  l.histories.values.all fun history =>
    history.active.records.isEmpty && history.sealed.all fun scope => scope.records.isEmpty

end CallRegister

end Transcript
