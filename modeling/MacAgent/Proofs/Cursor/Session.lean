import MacAgent.Cursor.Handoff

/-! # Sessions: a reader and a producer, step by step

`Handoff` gives the steps of the producer and what each step of the reader does to the channel. A
session adds the reader: where it stands in a call, and what its calls have returned. The two
parties move in any order, and so does whoever holds a handle of the token. An offer succeeds
exactly when the reader takes the item (`Handoff.receive?`), since the channel holds nothing.

`Session.Reachable` is the relation over all interleavings. -/

namespace MacAgent

/-- A call of the reader that may have to wait: for an item, to stop the producer, or to drop the reader. -/
inductive Call where
  | next
  | cancel
  | drop
deriving DecidableEq, Repr

/-- Where the reader stands: between two calls; about to look at the token, waiting for an item, about to
cancel the token, about to drop its end of the channel or waiting for the producer's end, in a call; or
dropped. -/
inductive Reader where
  | idle
  | asking
  | waiting
  | stopping (call : Call)
  | leaving (call : Call)
  | joining (call : Call)
  | gone
deriving DecidableEq, Repr

/-- Whether the reader is inside a call. -/
def Reader.IsBusy (r : Reader) : Prop := r ≠ .idle ∧ r ≠ .gone

instance (r : Reader) : Decidable r.IsBusy := inferInstanceAs (Decidable (_ ∧ _))

/-- What a call has returned: an item, that there is none, or that the traversal is cancelled. -/
inductive Reply (α : Type) where
  | next (item? : Option α)
  | cancelled
deriving DecidableEq, Repr

namespace Reply

variable {α : Type}

def item? : Reply α → Option α
  | next item? => item?
  | cancelled => none

/-- Whether a reply says that the traversal is ended. -/
def IsClosing (r : Reply α) : Prop := r.item? = none

instance (r : Reply α) : Decidable r.IsClosing := inferInstanceAs (Decidable (_ = none))

theorem eq_of_item? {r : Reply α} {item : α} (h : r.item? = some item) : r = next (some item) := by
  cases r with
  | next item? =>
    obtain rfl : item? = some item := h
    rfl
  | cancelled => cases h

end Reply

/-- A reader, its producer, and what the reader's calls have returned so far, in order. -/
structure Session (α : Type) where
  handoff : Handoff α
  reader : Reader := .idle
  replies : List (Reply α) := []

/-- Whose step comes next: the producer's, the reader's inside a call, the one that begins a call, or a
cancellation through a handle of the token. -/
inductive Move where
  | produce
  | read
  | call (call : Call)
  | cancelToken
deriving DecidableEq, Repr

namespace Session

variable {α : Type}

/-- The start of a traversal. -/
def start (cursor : Cursor α) (isEnd : α → Bool) : Session α := { handoff := { cursor, isEnd } }

/-- The items that the reader has got, in order. -/
def received (s : Session α) : List α := s.replies.filterMap Reply.item?

/-- The reader's call returns. -/
def reply (s : Session α) (r : Reply α) : Session α :=
  { s with reader := .idle, replies := s.replies ++ [r] }

/-- What becomes of the session when a call returns after the producer's end. -/
def close (s : Session α) : Call → Session α
  | .next => s.reply (.next none)
  | .cancel => s.reply .cancelled
  | .drop => { s with reader := .gone }

/-- The reader begins a call. Dropping it does nothing once it has waited for the producer's end. -/
def begin (s : Session α) : Call → Session α
  | .next => { s with reader := .asking }
  | .cancel => { s with reader := .stopping .cancel }
  | .drop => { s with reader := if s.handoff.joined then .gone else .stopping .drop }

/-- One step of the reader inside a call. It is `none` when there is no call, or when the reader has
to wait for the producer. -/
def proceed (s : Session α) : Option (Session α) :=
  match s.reader with
  | .idle | .gone => none
  | .asking =>
    if s.handoff.cancelled then some { s with reader := .leaving .next }
    else if s.handoff.listening then some { s with reader := .waiting }
    else some (s.reply (.next none))
  | .waiting =>
    match s.handoff.receive? with
    | some (item, handoff) => some ({ s with handoff }.reply (.next (some item)))
    | none => if s.handoff.producer.isOver then some { s with reader := .leaving .next } else none
  | .stopping call => some { s with handoff := s.handoff.cancelToken, reader := .leaving call }
  | .leaving call => some { s with handoff := s.handoff.hangUp, reader := .joining call }
  | .joining call => s.handoff.join?.map fun handoff => { s with handoff }.close call

/-- One step of a session, if the party whose step it is can move. -/
def move (s : Session α) : Move → Option (Session α)
  | .produce => s.handoff.advance.map fun handoff => { s with handoff }
  | .read => s.proceed
  | .call call => if s.reader = .idle then some (s.begin call) else none
  | .cancelToken => some { s with handoff := s.handoff.cancelToken }

/-- The sessions over a cursor that some interleaving leads to. -/
inductive Reachable (cursor : Cursor α) (isEnd : α → Bool) : Session α → Prop where
  | start : Reachable cursor isEnd (.start cursor isEnd)
  | step {s t : Session α} (m : Move) : Reachable cursor isEnd s → s.move m = some t →
      Reachable cursor isEnd t

/-- The session after the moves listed, if each of them can be made. -/
def run (s : Session α) (moves : List Move) : Option (Session α) := moves.foldlM move s

theorem Reachable.run {cursor : Cursor α} {isEnd : α → Bool} {s t : Session α}
    (h : Reachable cursor isEnd s) (moves : List Move) (hr : s.run moves = some t) :
    Reachable cursor isEnd t := by
  induction moves generalizing s with
  | nil =>
    cases hr
    exact h
  | cons m moves ih =>
    obtain ⟨u, hu, hr⟩ := Option.bind_eq_some_iff.mp hr
    exact ih (h.step m hu) hr

end Session

end MacAgent
