/-! # Telling many observers

A broadcast keeps the items published last, as many as its capacity. Every receiver has a place of
its own in the sequence of all items and reads on from there; one that is too late is told how many
items it has missed and goes on with the oldest item still kept. What receivers read does not depend
on each other.
-/

namespace Transcript

/-- What a receiver reads. -/
inductive Received (α : Type) where
  | item (value : α)
  /-- So many items are gone. -/
  | lagged (missed : Nat)
deriving DecidableEq, Repr

/-- The items that receivers can still read. -/
structure Broadcast (α : Type) where
  capacity : Nat
  /-- How many items have been published. -/
  published : Nat
  /-- The latest items, the oldest one first. -/
  kept : List α
deriving DecidableEq, Repr

namespace Broadcast

variable {α : Type}

/-- A broadcast before its first item. Room is made for a power of two of items, and at least for
one. A capacity of `2 ^ 63` or more, which a setting can ask for, ends the program with a panic; this
is left out. -/
def new (capacity : Nat) : Broadcast α :=
  ⟨(max 1 capacity).nextPowerOfTwo, 0, []⟩

/-- The number of items that are gone. -/
def oldest (b : Broadcast α) : Nat := b.published - b.kept.length

def publish (b : Broadcast α) (item : α) : Broadcast α :=
  let items := b.kept ++ [item]
  { b with published := b.published + 1, kept := items.drop (items.length - b.capacity) }

def publishAll (b : Broadcast α) (items : List α) : Broadcast α := items.foldl publish b

/-- What a receiver at place `next` reads, if there is anything, and its next place. -/
def receive (b : Broadcast α) (next : Nat) : Option (Received α) × Nat :=
  if next < b.oldest then (some (.lagged (b.oldest - next)), b.oldest)
  else match b.kept[next - b.oldest]? with
    | some item => (some (.item item), next + 1)
    | none => (none, next)

/-- All that a receiver at place `next` reads until nothing is left, after which its place is the
number of items published. -/
def receiveAll (b : Broadcast α) (next : Nat) : List (Received α) :=
  (if next < b.oldest then [.lagged (b.oldest - next)] else [])
    ++ (b.kept.drop (next - b.oldest)).map .item

end Broadcast

/-- A broadcast with its receivers, each by its number; one that has left has no place. -/
structure Audience (α : Type) where
  broadcast : Broadcast α
  receivers : List (Option Nat) := []
deriving Repr

namespace Audience

variable {α : Type}

def new (capacity : Nat) : Audience α := ⟨.new capacity, []⟩

def size (a : Audience α) : Nat := a.receivers.countP Option.isSome

def publish (a : Audience α) (item : α) : Audience α :=
  { a with broadcast := a.broadcast.publish item }

def subscribe (a : Audience α) : Audience α × Nat :=
  ({ a with receivers := a.receivers ++ [some a.broadcast.published] }, a.receivers.length)

def unsubscribe (a : Audience α) (receiver : Nat) : Audience α :=
  { a with receivers := a.receivers.set receiver none }

/-- What a receiver reads, if there is anything. -/
def receive (a : Audience α) (receiver : Nat) : Option (Received α) × Audience α :=
  match a.receivers[receiver]? with
  | some (some next) =>
    let (read, next) := a.broadcast.receive next
    (read, { a with receivers := a.receivers.set receiver (some next) })
  | _ => (none, a)

end Audience

end Transcript
