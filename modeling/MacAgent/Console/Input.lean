import MacAgent.Text.Blank

/-! # Lines of input

Input arrives as bytes. A line ends at a line feed or at the end of the input, and loses the line
feed and one carriage return before it. A line that is not UTF-8 cannot be read. -/

namespace MacAgent

inductive Line where
  | text (text : String)
  /-- The bytes of the line are no text. -/
  | unreadable
deriving DecidableEq, Repr

namespace Line

/-- The text of some bytes, if they are UTF-8. -/
def decode (bytes : List UInt8) : Line :=
  match String.fromUTF8? (ByteArray.mk bytes.toArray) with
  | some s => .text s
  | none => .unreadable

/-- The bytes of a line that ended with a line feed, without a carriage return at the end. -/
def dropReturn (bytes : List UInt8) : List UInt8 :=
  if bytes.getLast? = some 0x0D then bytes.dropLast else bytes

/-- The lines of an input whose first line starts with the bytes of `start`, reversed. -/
def split (start : List UInt8) : List UInt8 → List Line
  | [] => if start.isEmpty then [] else [decode start.reverse]
  | 0x0A :: rest => decode (dropReturn start.reverse) :: split [] rest
  | byte :: rest => split (byte :: start) rest

def ofBytes (input : List UInt8) : List Line := split [] input

def ofString (input : String) : List Line := ofBytes input.toUTF8.toList

end Line

end MacAgent
