import MacAgent.Agent.Host
import MacAgent.Console.Basic

/-! # The daemon

The daemon runs one agent on a plane in memory. Two parties take turns: the console reads a line of
the input, and the loop delivers an event. Turns come in any order, and a party that has nothing to
do passes. At the end of the input the loop still delivers what waits; it stops at once when the
agent has shut down. -/

namespace MacAgent

structure Daemon where
  agent : Agent
  memory : Memory
  loop : Loop := {}
  /-- The lines that the console has not read. -/
  input : List Line
  /-- Whether the console has reached its end, and stopped the loop. -/
  closed : Bool := false
  applied : Nat := 0

inductive Turn where
  | read
  | deliver
deriving DecidableEq, Repr

namespace Daemon

/-- Puts the events that the plane has sent into the queue. -/
def settle (d : Daemon) : Daemon :=
  let (events, memory) := d.memory.collect
  { d with memory, loop := d.loop.send events }

/-- A daemon that has initialized its agent, and maybe set the name to greet. -/
def start (config : Config) (name? : Option String) (input : List Line) : Except Fault Daemon :=
  let board := Board.ofOptions (name?.toList.map fun name => (Topic.name.key, name))
  match (Agent.build Memory.plane config).run.run { board } with
  | (.ok agent, memory) => .ok (settle { agent, memory := memory.send [.initialized], input })
  | (.error fault, _) => .error fault

def isDown (d : Daemon) : Bool := d.memory.board.isShutDown

def read (d : Daemon) : Daemon :=
  if d.closed then d
  else
    match d.input with
    | [] => { d with closed := true }
    | line :: input =>
      match Console.step true line d.memory with
      | (.ended, memory) => settle { d with memory, input, closed := true }
      | (.passed, memory) => settle { d with memory, input }
      | (.applied, memory) => settle { d with memory, input, applied := d.applied + 1 }

def deliver (d : Daemon) : Except Fault Daemon :=
  match d.isDown, d.loop.pending with
  | false, e :: rest =>
    let (result, s, loop) := { d.loop with pending := rest }.dispatch Agent.memoryHost e
      { agent := d.agent, plane := d.memory }
    result.map fun () => { d with agent := s.agent, memory := s.plane, loop }
  | _, _ => .ok d

def take (d : Daemon) : Turn → Except Fault Daemon
  | .read => .ok d.read
  | .deliver => d.deliver

/-- The console reads the rest of its input. -/
def readAll (d : Daemon) : Daemon :=
  (List.replicate (d.input.length + 1) ()).foldl (fun d () => d.read) d

/-- The loop delivers the events that wait and those raised meanwhile. -/
def drain (d : Daemon) : Except Fault Daemon :=
  let p := d.loop.drain Agent.memoryHost (d.memory.deliveryBound d.loop.pending.length)
    { agent := d.agent, plane := d.memory }
  match p.stop with
  | .fatal fault => .error fault
  | _ => .ok { d with agent := p.host.agent, memory := p.host.plane, loop := p.loop }

/-- Takes the turns listed; then, unless the agent is down, the console reads the rest of its input
and the loop delivers what waits. -/
def run (turns : List Turn) (d : Daemon) : Except Fault Daemon := do
  let d ← turns.foldlM take d
  if d.isDown then return d
  d.readAll.drain

end Daemon

end MacAgent
