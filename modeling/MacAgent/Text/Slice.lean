/-! # Parts of a text by bytes

Places in a text that are counted in the bytes of its UTF-8 form. A part is there if neither of its
ends lies inside a character. -/

namespace MacAgent.Text

def byteLength : List Char → Nat
  | [] => 0
  | c :: rest => c.utf8Size + byteLength rest

/-- The text without its first `n` bytes. -/
def dropBytes? : List Char → Nat → Option (List Char)
  | text, 0 => some text
  | [], _ => none
  | c :: rest, n => if c.utf8Size ≤ n then dropBytes? rest (n - c.utf8Size) else none

def takeBytes? : List Char → Nat → Option (List Char)
  | _, 0 => some []
  | [], _ => none
  | c :: rest, n =>
    if c.utf8Size ≤ n then (takeBytes? rest (n - c.utf8Size)).map (c :: ·) else none

/-- The bytes of a text from `start` up to `stop`. -/
def slice? (text : List Char) (start stop : Nat) : Option (List Char) := do
  takeBytes? (← dropBytes? text start) (stop - start)

end MacAgent.Text
