import MacAgent.Value.Address
import MacAgent.Value.Vlan

/-! # Keys of the MAC table

An entry is found by a VLAN and an address. A key may carry any 16-bit VLAN number, since keys also
come back from tables that check them differently; only parsing insists on a usable VLAN. The empty
key, VLAN 0 with the zero address, marks the end of a traversal. -/

namespace MacAgent

structure Key where
  vlan : UInt16
  address : Address
deriving DecidableEq, Repr

namespace Key

/-- The key that marks the end of a traversal. -/
def empty : Key := ⟨0, Address.zero⟩

instance : Inhabited Key := ⟨empty⟩

def isEmpty (k : Key) : Bool := k.vlan == 0 && k.address.isZero

/-- Reads a key from a VLAN and an address; the VLAN is read first. -/
def parse (vlan address : String) : Except FormatError Key := do
  let v ← Vlan.parse vlan
  let a ← Address.parse address
  return ⟨v.id, a⟩

/-- The canonical form of a key, under which the status of its entry is published. -/
def render (k : Key) : String :=
  "mac_key_t(vlan_id=" ++ toString k.vlan.toNat ++ ", eth_addr=" ++ k.address.render ++ ")"

instance : ToString Key := ⟨render⟩

end Key

end MacAgent
