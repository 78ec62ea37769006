import MacAgent.Cursor.Basic

/-! # Reading a cursor in place

A walk polls its cursor whenever the reader asks for an item. It ends at the first sentinel, which
it does not pass on, and does not poll the cursor again after it. -/

namespace MacAgent

/-- A reader that polls its cursor itself. -/
structure Walk (α : Type) where
  cursor : Cursor α
  isEnd : α → Bool
  polls : Nat := 0
  /-- Whether the sentinel has been seen. -/
  exhausted : Bool := false

namespace Walk

variable {α : Type}

/-- The next item, or `none` from the end on. A crash of the cursor is a crash of the reader. -/
def next (w : Walk α) : Except String (Option α × Walk α) :=
  if w.exhausted then .ok (none, w)
  else
    match w.cursor w.polls with
    | .error message => .error message
    | .ok item =>
      if w.isEnd item then .ok (none, { w with polls := w.polls + 1, exhausted := true })
      else .ok (some item, { w with polls := w.polls + 1 })

def take (w : Walk α) : Nat → Except String (List α × Walk α)
  | 0 => .ok ([], w)
  | n + 1 => do
    match ← w.next with
    | (none, w) => return ([], w)
    | (some item, w) =>
      let (items, w) ← w.take n
      return (item :: items, w)

end Walk

end MacAgent
