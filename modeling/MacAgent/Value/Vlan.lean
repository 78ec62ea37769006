import MacAgent.Text.Blank
import MacAgent.Value.FormatError

/-! # VLAN identifiers

A table entry lives in one of the VLANs 1 to 4094; 0 and 4095 are reserved. A VLAN is written in
decimal, or like the name of its interface, `Vlan10`. -/

namespace MacAgent

/-- The VLAN IDs that are not reserved. -/
def Vlan.Usable (id : UInt16) : Prop :=
  1 ≤ id.toNat ∧ id.toNat ≤ 4094

instance (id : UInt16) : Decidable (Vlan.Usable id) :=
  inferInstanceAs (Decidable (_ ∧ _))

/-- A VLAN that can hold table entries. -/
structure Vlan where
  id : UInt16
  usable : Vlan.Usable id
deriving DecidableEq, Repr

namespace Vlan

/-- The VLAN with this ID, unless it is reserved. -/
def ofId (id : UInt16) : Except FormatError Vlan :=
  if h : Usable id then .ok ⟨id, h⟩ else .error (.reservedVlan id)

/-- The digits after one leading `vlan` in any ASCII case; the whole text if it does not start so.
-/
def dropName : List Char → List Char
  | v :: l :: a :: n :: rest =>
    if [v, l, a, n].map Text.asciiLower = ['v', 'l', 'a', 'n'] then rest
    else v :: l :: a :: n :: rest
  | text => text

/-- The number written by ASCII decimal digits; there has to be one. -/
def decimal? (digits : List Char) : Option Nat :=
  if digits.isEmpty || !digits.all (fun c => '0' ≤ c && c ≤ '9') then none
  else some (digits.foldl (fun n c => 10 * n + (c.toNat - '0'.toNat)) 0)

/-- The number below 65536 written by digits, which may follow a plus sign. -/
def number? (text : List Char) : Option UInt16 := do
  let n ← decimal? (match text with
    | '+' :: digits => digits
    | digits => digits)
  if n < 65536 then some (UInt16.ofNat n) else none

/-- Reads a VLAN. No blanks are allowed around the number. -/
def parse (text : String) : Except FormatError Vlan :=
  match number? (dropName text.toList) with
  | some id => ofId id
  | none => .error (.vlan text)

instance : ToString Vlan := ⟨fun v => toString v.id.toNat⟩

end Vlan

end MacAgent
