import MacAgent.Cursor.Basic

/-! # Reading a cursor through a thread

A producer thread polls the cursor and hands each item over in a rendezvous: it offers an item and
waits until the reader takes it, so it is never more than one item ahead. A token that either side
can see stops the producer: it looks at the token before each poll and before each offer. The
reader gives up by dropping its end of the channel, which makes a waiting offer fail, and then
waits for the producer to end.

`advance` is one step of the producer; it is `none` when the producer has ended, or waits with an
offer. The reader's calls are made of its own steps and of steps of the producer that it waits for.
The thread may run ahead of the reader's calls by any number of steps; `Handoff.next` takes that
number as its argument. -/

namespace MacAgent

inductive Producer (α : Type) where
  /-- It is about to look at the token before a poll. -/
  | start
  /-- It is about to poll. -/
  | polling
  /-- It holds an item, and is about to look at the token. -/
  | holding (item : α)
  /-- It offers an item and waits for the reader. -/
  | offering (item : α)
  /-- The reader took the item; it is about to count it. -/
  | handed
  /-- It has ended and released the cursor. -/
  | ended
  /-- A poll crashed, which ended it too. -/
  | crashed
deriving DecidableEq, Repr

/-- Whether the producer will do nothing more. -/
def Producer.isOver {α : Type} : Producer α → Bool
  | ended | crashed => true
  | _ => false

/-- A reader and the thread that polls its cursor. -/
structure Handoff (α : Type) where
  cursor : Cursor α
  isEnd : α → Bool
  producer : Producer α := .start
  polls : Nat := 0
  /-- How many items the producer has counted as taken. -/
  handed : Nat := 0
  cancelled : Bool := false
  /-- Whether the reader still holds its end of the channel. -/
  listening : Bool := true
  /-- Whether the reader has waited for the producer's end. -/
  joined : Bool := false
  /-- The producer's count, once the reader has waited for an end without a crash. -/
  produced? : Option Nat := none

namespace Handoff

variable {α : Type}

def advance (h : Handoff α) : Option (Handoff α) :=
  match h.producer with
  | .start => some { h with producer := if h.cancelled then .ended else .polling }
  | .polling =>
    let h := { h with polls := h.polls + 1 }
    match h.cursor (h.polls - 1) with
    | .error _ => some { h with producer := .crashed }
    | .ok item => some { h with producer := if h.isEnd item then .ended else .holding item }
  | .holding item => some { h with producer := if h.cancelled then .ended else .offering item }
  | .offering _ => if h.listening then none else some { h with producer := .ended }
  | .handed => some { h with producer := .start, handed := h.handed + 1 }
  | .ended | .crashed => none

def advanceBy (h : Handoff α) : Nat → Handoff α
  | 0 => h
  | n + 1 =>
    match h.advance with
    | some h => h.advanceBy n
    | none => h

/-- The producer runs until it waits or has ended, which takes at most six steps. -/
def settle (h : Handoff α) : Handoff α := h.advanceBy 6

def receive? (h : Handoff α) : Option (α × Handoff α) :=
  match h.producer, h.listening with
  | .offering item, true => some (item, { h with producer := .handed })
  | _, _ => none

def cancelToken (h : Handoff α) : Handoff α := { h with cancelled := true }

def hangUp (h : Handoff α) : Handoff α := { h with listening := false }

/-- The reader takes note of the producer's end; it waits while the producer goes on. -/
def join? (h : Handoff α) : Option (Handoff α) :=
  if h.joined then some h
  else
    match h.producer with
    | .ended => some { h with joined := true, produced? := some h.handed }
    | .crashed => some { h with joined := true }
    | _ => none

/-- The reader hangs up and waits for the producer's end. -/
def finish (h : Handoff α) : Handoff α :=
  let h := h.hangUp.settle
  h.join?.getD h

/-- The next item, or `none` from the end on, after the producer has taken up to `lead` steps. -/
def next (h : Handoff α) (lead : Nat) : Option α × Handoff α :=
  let h := h.advanceBy lead
  if h.cancelled then (none, h.finish)
  else if !h.listening then (none, h)
  else
    let h := h.settle
    match h.receive? with
    | some (item, h) => (some item, h)
    | none => (none, h.finish)

def take (h : Handoff α) (lead : Nat) : Nat → List α × Handoff α
  | 0 => ([], h)
  | n + 1 =>
    match h.next lead with
    | (none, h) => ([], h)
    | (some item, h) =>
      let (items, h) := h.take lead n
      (item :: items, h)

/-- Stops the producer and waits for its end. No item is delivered afterwards. -/
def cancel (h : Handoff α) : Handoff α := h.cancelToken.finish

/-- What becomes of the two sides when the reader is dropped. -/
def release (h : Handoff α) : Handoff α :=
  if h.joined then h else h.cancel

end Handoff

end MacAgent
