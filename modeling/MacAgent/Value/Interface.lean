import MacAgent.Text.Blank
import MacAgent.Value.FormatError

/-! # Interfaces

An interface connects the switch to a network and is known by its name. A name is kept as it is
given; it is not empty and holds neither blanks nor commas, since commas separate the interfaces of
an entry. Interfaces are ordered by name, code point by code point. -/

namespace MacAgent

/-- The names that an interface can have. -/
def Interface.IsName (name : String) : Prop :=
  name.toList ≠ [] ∧ name.toList.all fun c => !Text.isBlank c && c ≠ ','

instance (name : String) : Decidable (Interface.IsName name) :=
  inferInstanceAs (Decidable (_ ∧ _))

/-- A physical or logical interface of the switch. -/
structure Interface where
  name : String
  isName : Interface.IsName name
deriving DecidableEq, Repr

namespace Interface

def ofName (name : String) : Except FormatError Interface :=
  if h : IsName name then .ok ⟨name, h⟩ else .error (.interface name)

def isEthernet (i : Interface) : Bool :=
  "Ethernet".toList.isPrefixOf i.name.toList

/-- Whether the name is that of a bundle of links. -/
def isBundle (i : Interface) : Bool :=
  "Port-Channel".toList.isPrefixOf i.name.toList

instance : LT Interface := ⟨fun i j => i.name < j.name⟩

instance (i j : Interface) : Decidable (i < j) :=
  inferInstanceAs (Decidable (i.name < j.name))

def compare (i j : Interface) : Ordering :=
  compareOfLessAndEq i j

instance : ToString Interface := ⟨name⟩

end Interface

end MacAgent
