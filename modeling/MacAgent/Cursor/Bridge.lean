import MacAgent.Cursor.Walk
import MacAgent.Cursor.Handoff
import MacAgent.Plane.Basic
import MacAgent.Text.Blank

/-! # Bridges

A traversal reads a cursor in place or through a thread; which of the two is configured by name. A
`Feed` is a reader of either kind over a copied list, which is what the planes' cursors are. -/

namespace MacAgent

/-- How cursors are read. -/
inductive Bridge where
  /-- The reader polls the cursor. -/
  | inline
  /-- A thread polls the cursor and hands the items over. -/
  | threaded
deriving DecidableEq, Repr

namespace Bridge

def name : Bridge → String
  | inline => "inline"
  | threaded => "threaded"

instance : ToString Bridge := ⟨name⟩

def ofName? (text : String) : Option Bridge :=
  [inline, threaded].find? (·.name = text)

/-- The bridge with this name in any ASCII case. -/
def ofAnyCase? (text : String) : Option Bridge :=
  ofName? (String.ofList (text.toList.map Text.asciiLower))

end Bridge

/-- A reader of a copied list, by either bridge. -/
inductive Feed (α : Type) where
  | inline (walk : Walk α)
  | threaded (handoff : Handoff α)

namespace Feed

variable {α : Type}

/-- A fresh reader of the items up to the first that is an end. -/
def start [Inhabited α] (bridge : Bridge) (isEnd : α → Bool) (items : List α) : Feed α :=
  match bridge with
  | .inline => .inline { cursor := .snapshot items, isEnd }
  | .threaded => .threaded { cursor := .snapshot items, isEnd }

def polls : Feed α → Nat
  | inline walk => walk.polls
  | threaded handoff => handoff.polls

/-- The next item. A copied list does not crash. -/
def next (lead : Nat) : Feed α → Option α × Feed α
  | inline walk =>
    match walk.next with
    | .ok (item?, walk) => (item?, inline walk)
    | .error _ => (none, inline walk)
  | threaded handoff =>
    let (item?, handoff) := handoff.next lead
    (item?, threaded handoff)

/-- Drops the reader. A thread, which may take up to `lead` steps before it is told, is stopped and waited
for. -/
def release (lead : Nat) : Feed α → Feed α
  | inline walk => inline walk
  | threaded handoff => threaded (handoff.advanceBy lead).release

/-- What becomes of the plane when the reader is dropped before the end: a thread may poll once more. -/
def abandon {σ : Type} (plane : Plane σ) (source : Source) (feed : Feed α) (s : σ) : σ :=
  plane.polled source ((feed.release (plane.lead s)).polls - feed.polls) s

/-- Visits up to `bound` items in order and passes a result along. A failure drops the reader. -/
def visit {σ β : Type} (plane : Plane σ) (source : Source) (act : β → α → PlaneM σ β) :
    Nat → Feed α → β → PlaneM σ β
  | 0, _, acc => pure acc
  | bound + 1, feed, acc => do
    let (item?, rest) := feed.next (plane.lead (← get))
    modify (plane.polled source (rest.polls - feed.polls))
    match item? with
    | none => return acc
    | some item =>
      visit plane source act bound rest (← onFault (act acc item) (rest.abandon plane source))

end Feed

/-- Visits the items of a copied list up to the first end, read by the given bridge. The list ends a
traversal after at most one poll more than it has items. -/
def Plane.traverse {σ α β : Type} [Inhabited α] (plane : Plane σ) (bridge : Bridge)
    (source : Source) (isEnd : α → Bool) (items : List α) (act : β → α → PlaneM σ β) (acc : β) :
    PlaneM σ β :=
  Feed.visit plane source act (items.length + 1) (.start bridge isEnd items) acc

end MacAgent
