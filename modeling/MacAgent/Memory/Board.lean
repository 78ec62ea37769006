import Std.Data.TreeMap
import MacAgent.Plane.Basic

/-! # Options and status in memory

The board is the manager of an agent's options, status and lifecycle. Options are written from
outside and read by the agent; status values are written by the agent and read from outside. Both
are kept in the order of their keys, code point by code point. -/

namespace MacAgent

/-- The options and the status of one agent. -/
structure Board where
  options : Std.TreeMap String String := ∅
  status : Std.TreeMap String String := ∅
  /-- Every status value ever published, in order, under its key. -/
  writes : List (String × String) := []
  acks : Nat := 0
  connected : Bool := true

namespace Board

instance : Inhabited Board := ⟨{}⟩

/-- Sets an option as the outside does. The empty value removes the option. -/
def setOption (b : Board) (key value : String) : Board :=
  { b with options := if value = "" then b.options.erase key else b.options.insert key value }

/-- A board on which the options listed have been set, one after another. -/
def ofOptions (options : List (String × String)) : Board :=
  options.foldl (fun b (key, value) => b.setOption key value) {}

def isShutDown (b : Board) : Bool := 0 < b.acks

def publish (b : Board) (key value : String) : Board :=
  { b with status := b.status.insert key value, writes := b.writes ++ [(key, value)] }

/-- Takes note that the agent has, or has not, finished shutting down. -/
def acknowledge (b : Board) (complete : Bool) : Board :=
  if complete then { b with acks := b.acks + 1 } else b

/-- From now on every call on the board fails. -/
def disconnect (b : Board) : Board := { b with connected := false }

/-- The values of all options, in the order of their keys. -/
def optionValues (b : Board) : List String := b.options.toList.map (·.2)

end Board

end MacAgent
