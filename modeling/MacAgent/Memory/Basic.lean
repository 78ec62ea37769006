import MacAgent.Memory.Board
import MacAgent.Memory.Table

/-! # The management plane in memory

A board and a table, and the events that have been sent but not yet put into the queue. A call on a
manager that has lost its connection fails with the name of the call; any other failing call leaves
the plane as it was. -/

namespace MacAgent

/-- A management plane that needs no device. -/
structure Memory where
  board : Board := {}
  table : Table := {}
  /-- The events sent since the outbox was last emptied, in order. -/
  outbox : List Event := []

namespace Memory

instance : Inhabited Memory := ⟨{}⟩

def send (m : Memory) (events : List Event) : Memory :=
  { m with outbox := m.outbox ++ events }

/-- Changes the table and sends what the change announces. -/
def updateTable (m : Memory) : Except Fault (Table × Option Event) → Except Fault Unit × Memory
  | .ok (table, event?) => (.ok (), { m with table }.send event?.toList)
  | .error fault => (.error fault, m)

/-- Takes up entries as a device that learns them does. -/
def learn (m : Memory) (entries : List Entry) : Memory :=
  let (table, events) := m.table.learn entries
  { m with table }.send events

/-- Whether the manager that a request goes to has its connection. -/
def reaches (m : Memory) : Request → Bool
  | .option _ | .optionValues | .status _ | .publish .. | .acknowledge _ => m.board.connected
  | .keys | .lookup _ | .install _ | .delete _ | .watch _ => m.table.connected

/-- The answer of a plane that has its connections. -/
def serve (m : Memory) : (r : Request) → Except Fault r.Answer × Memory
  | .option key => (.ok m.board.options[key]?, m)
  | .optionValues => (.ok m.board.optionValues, m)
  | .status key => (.ok m.board.status[key]?, m)
  | .publish key value => (.ok (), { m with board := m.board.publish key value })
  | .acknowledge complete => (.ok (), { m with board := m.board.acknowledge complete })
  | .keys => (.ok m.table.keys, m)
  | .lookup key => (.ok (m.table.find? key), m)
  | .install entry => m.updateTable (m.table.install entry)
  | .delete key => m.updateTable (m.table.delete key)
  | .watch on => (.ok (), { m with table := { m.table with watching := on } })

def answer (r : Request) (m : Memory) : Except Fault r.Answer × Memory :=
  if m.reaches r then m.serve r else (.error (.disconnected r.name), m)

def plane : Plane Memory where
  answer := answer

end Memory

end MacAgent
