import MacAgent.Text.Quote

/-! # Why a text is no value

The parsers of addresses, VLANs and interface names fail with one of four causes, each of which
keeps the text or number it rejects. -/

namespace MacAgent

/-- Why a text or a number is not a value of the kind asked for. -/
inductive FormatError where
  /-- The text, already trimmed, is no Ethernet address. -/
  | address (text : String)
  | reservedVlan (id : UInt16)
  | vlan (text : String)
  | interface (name : String)
deriving DecidableEq, Repr

/-- The message that names the rejected text or number. -/
def FormatError.message : FormatError → String
  | .address text => "invalid Ethernet address format: " ++ text
  | .reservedVlan id => "invalid VLAN ID: " ++ toString id.toNat ++ " (0 and 4095 are reserved)"
  | .vlan text => "invalid VLAN ID format: " ++ text
  | .interface name => "invalid interface name: " ++ Text.quote name

end MacAgent
