import MacAgent.Value.Entry

/-! # Fixtures

Entries for the test bed, built from literals. A bad literal is a mistake in the test and not a
condition of the program. -/

namespace MacAgent

namespace Fixture

/-- Which of the literals of a fixture is bad. -/
inductive Literal where
  | interface
  | vlan
  | address
deriving DecidableEq, Repr

def Literal.name : Literal → String
  | interface => "interface"
  | vlan => "VLAN"
  | address => "address"

structure Mistake where
  literal : Literal
  cause : FormatError
deriving DecidableEq, Repr

def Mistake.message (m : Mistake) : String :=
  "bad fixture " ++ m.literal.name ++ ": " ++ m.cause.message

/-- Blames a literal for a failure. -/
def blame {α : Type} (literal : Literal) : Except FormatError α → Except Mistake α :=
  Except.mapError fun cause => { literal, cause }

def key (vlan : UInt16) (address : String) : Except Mistake Key := do
  let vlan ← blame .vlan (Vlan.ofId vlan)
  let address ← blame .address (Address.parse address)
  return ⟨vlan.id, address⟩

/-- A unicast entry; its interface is read first. -/
def entry (vlan : UInt16) (address interface : String) : Except Mistake Entry := do
  let interface ← blame .interface (Interface.ofName interface)
  return .unicast (← key vlan address) interface

end Fixture

end MacAgent
