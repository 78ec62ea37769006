import MacAgent.Plane.Basic

/-! # The MAC table in memory

The table is a list of entries with distinct keys, in the order in which the keys came in. A change
to the table is announced by an event while the table is watched; an operation that changes nothing
announces nothing. -/

namespace MacAgent

structure Table where
  entries : List Entry := []
  watching : Bool := false
  /-- The keys whose entries must not be deleted. -/
  locked : List Key := []
  connected : Bool := true

namespace Table

instance : Inhabited Table := ⟨{}⟩

def find? (t : Table) (k : Key) : Option Entry :=
  t.entries.find? (·.key = k)

/-- The keys of all entries, in table order. -/
def keys (t : Table) : List Key := t.entries.map (·.key)

def announce (t : Table) (e : Event) : Option Event :=
  if t.watching then some e else none

/-- Puts an entry in the place of the one with its key, or after all others. -/
def upsert (t : Table) (e : Entry) : Table × Option Event :=
  match t.find? e.key with
  | some old =>
    if old = e then (t, none)
    else
      ({ t with entries := t.entries.map fun x => if x.key = e.key then e else x },
        t.announce (.entrySet e))
  | none => ({ t with entries := t.entries ++ [e] }, t.announce (.entrySet e))

/-- Takes up entries without checking them, as a device that learns them does. -/
def learn (t : Table) : List Entry → Table × List Event
  | [] => (t, [])
  | e :: rest =>
    let (t, event?) := t.upsert e
    let (t, events) := t.learn rest
    (t, event?.toList ++ events)

/-- Installs an entry, unless its VLAN is reserved. -/
def install (t : Table) (e : Entry) : Except Fault (Table × Option Event) :=
  if Vlan.Usable e.key.vlan then .ok (t.upsert e)
  else .error (.invalidEntry e.key "0 and 4095 are reserved VLAN IDs")

/-- Deletes the entry for a key, unless the key is locked. There need not be an entry. -/
def delete (t : Table) (k : Key) : Except Fault (Table × Option Event) :=
  if k ∈ t.locked then .error (.rejected "mac_entry_del" (k.render ++ " is locked"))
  else if (t.find? k).isSome then
    .ok ({ t with entries := t.entries.filter (·.key ≠ k) }, t.announce (.entryDeleted k))
  else .ok (t, none)

/-- From now on deletes of the key fail. -/
def lock (t : Table) (k : Key) : Table := { t with locked := k :: t.locked }

/-- From now on every call on the table fails. -/
def disconnect (t : Table) : Table := { t with connected := false }

end Table

end MacAgent
