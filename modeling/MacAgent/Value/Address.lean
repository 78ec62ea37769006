import MacAgent.Text.Blank
import MacAgent.Value.FormatError

/-! # Ethernet addresses

An address is six octets. It is written in groups of hexadecimal digits: six groups of one octet
between colons or between hyphens, or three groups of two octets between dots. A group may leave out
leading zeros. The first of the three separators in the text decides which form it has to follow;
printing always gives the colon form in lower case. -/

namespace MacAgent

/-- A 48-bit Ethernet address. -/
structure Address where
  octets : List UInt8
  length_eq : octets.length = 6
deriving DecidableEq, Repr

namespace Address

/-- The address with these octets, if there are six. -/
def ofOctets? (octets : List UInt8) : Option Address :=
  if h : octets.length = 6 then some ⟨octets, h⟩ else none

def zero : Address := ⟨List.replicate 6 0, rfl⟩

instance : Inhabited Address := ⟨zero⟩

def isZero (a : Address) : Bool := a = zero

/-- The value of an ASCII hexadecimal digit. -/
def hexValue? (c : Char) : Option Nat :=
  if '0' ≤ c && c ≤ '9' then some (c.toNat - '0'.toNat)
  else if 'a' ≤ c && c ≤ 'f' then some (c.toNat - 'a'.toNat + 10)
  else if 'A' ≤ c && c ≤ 'F' then some (c.toNat - 'A'.toNat + 10)
  else none

/-- The number written by hexadecimal digits, most significant first. -/
def hexNumber? (digits : List Char) : Option Nat :=
  digits.foldlM (fun n c => do return 16 * n + (← hexValue? c)) 0

/-- The lowest `width` octets of a number, most significant first. -/
def octetsOf (width n : Nat) : List UInt8 :=
  match width with
  | 0 => []
  | width + 1 => octetsOf width (n / 256) ++ [UInt8.ofNat n]

/-- The octets of one group: one to `2 * width` hexadecimal digits give `width` octets. -/
def group? (width : Nat) (digits : List Char) : Option (List UInt8) :=
  if digits.isEmpty || 2 * width < digits.length then none
  else (hexNumber? digits).map (octetsOf width)

/-- The address whose groups of `width` octets stand between the separators `sep`. -/
def grouped? (width : Nat) (sep : Char) (text : List Char) : Option Address := do
  let groups ← (Text.splitAtEach (· == sep) text).mapM (group? width)
  ofOctets? groups.flatten

/-- The address written by a text without outer blanks. -/
def ofChars? (text : List Char) : Option Address :=
  match text.find? (fun c => c == ':' || c == '-' || c == '.') with
  | some '.' => grouped? 2 '.' text
  | some sep => grouped? 1 sep text
  | none => none

/-- Reads an address; blanks around it do not count. -/
def parse (text : String) : Except FormatError Address :=
  let trimmed := Text.trim text.toList
  match ofChars? trimmed with
  | some a => .ok a
  | none => .error (.address (String.ofList trimmed))

/-- An octet as two lower-case hexadecimal digits. -/
def hexPair (octet : UInt8) : List Char :=
  [Text.hexDigit (octet.toNat / 16), Text.hexDigit (octet.toNat % 16)]

/-- The canonical form: six pairs of digits between colons. -/
def render (a : Address) : String :=
  String.ofList (List.intercalate [':'] (a.octets.map hexPair))

instance : ToString Address := ⟨render⟩

end Address

end MacAgent
