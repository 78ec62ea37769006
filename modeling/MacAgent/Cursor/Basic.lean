/-! # Cursors

A cursor can only be polled for the next item; it marks the end of its items by a sentinel, an item
that stands for none. What a cursor does is determined by what each poll gives, so a cursor is a
function from the number of the poll. A poll can crash instead of giving an item.

A cursor is read through one of two bridges: `Walk` polls it on the reader's side, `Handoff` polls
it on a thread of its own. -/

namespace MacAgent

/-- What the polls of a cursor, counted from 0, give: an item, or the message of a crash. -/
abbrev Cursor (α : Type) := Nat → Except String α

namespace Cursor

/-- The cursor over a list that was copied when the cursor was created. After the last item it gives
the default value for ever. -/
def snapshot {α : Type} [Inhabited α] (items : List α) : Cursor α :=
  fun n => .ok (items.getD n default)

/-- How many items a cursor over a copied list still holds after so many polls. -/
def remaining {α : Type} (items : List α) (polls : Nat) : Nat :=
  items.length - polls

/-- The cursor that gives `item0`, `item1` and so on. From poll `stop?` on it gives the empty text;
poll `crash?` crashes, also when it comes after the end. -/
def counting (stop? crash? : Option Nat) : Cursor String := fun n =>
  if crash? = some n then .error "cursor failed"
  else if stop?.any (· ≤ n) then .ok ""
  else .ok ("item" ++ toString n)

end Cursor

end MacAgent
