import MacAgent.Value.InterfaceSet
import MacAgent.Value.Key

/-! # Entries of the MAC table

An entry says to which interfaces frames for its key are forwarded: one for a unicast entry, several
for a multicast entry, none for an entry that drops them. -/

namespace MacAgent

structure Entry where
  key : Key
  interfaces : InterfaceSet
deriving DecidableEq

namespace Entry

instance : Inhabited Entry := ⟨⟨default, default⟩⟩

/-- The entry that forwards to one interface. -/
def unicast (k : Key) (i : Interface) : Entry := ⟨k, .singleton i⟩

/-- The entry that forwards to each of the interfaces listed. -/
def multicast (k : Key) (l : List Interface) : Entry := ⟨k, .ofList l⟩

/-- The entry that forwards to `i` only. -/
def setInterface (e : Entry) (i : Interface) : Entry := { e with interfaces := .singleton i }

def addInterface (e : Entry) (i : Interface) : Entry :=
  { e with interfaces := e.interfaces.insert i }

def removeInterface (e : Entry) (i : Interface) : Entry :=
  { e with interfaces := e.interfaces.erase i }

/-- The only interface of a unicast entry, or the first one of a multicast entry. -/
def interface? (e : Entry) : Option Interface := e.interfaces.first?

def drops (e : Entry) : Bool := e.interfaces.isEmpty

/-- The canonical form of an entry: its key, and the names of its interfaces between commas. -/
def render (e : Entry) : String :=
  "mac_entry_t(mac_key=" ++ e.key.render ++ ", intfs='" ++
    ",".intercalate (e.interfaces.toList.map Interface.name) ++ "')"

instance : ToString Entry := ⟨render⟩

end Entry

end MacAgent
