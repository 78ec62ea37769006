import MacAgent.Agent.Host
import MacAgent.Console.Basic
import MacAgent.Plane.Recorded
import MacAgent.Rig.Faulty

/-! # The test bed

A test bed holds a plane in memory, an event loop on the queue that the plane sends to, and at most
one agent. What the agent and its parts ask of the plane is recorded, and can be made to fail; the
console and the outside reach the plane directly. Whatever sends events from outside the loop leaves
them in the queue; once the loop is gone they are lost. -/

namespace MacAgent

/-- The plane of a test bed, as the agent reaches it. -/
abbrev Tapped := Recorded (Faulty Memory)

structure Rig where
  tap : Tapped := { plane := { plane := {} } }
  agent? : Option Agent := none
  /-- The loop with its queue, unless it has been dropped. -/
  loop? : Option Loop := some {}
  stopped : Bool := false

namespace Tapped

def memory (t : Tapped) : Memory := t.plane.plane

def withMemory (t : Tapped) (m : Memory) : Tapped :=
  { t with plane := { t.plane with plane := m } }

/-- The events that the plane has sent, and the plane without them. -/
def collect (t : Tapped) : List Event × Tapped :=
  let (events, m) := t.memory.collect
  (events, t.withMemory m)

end Tapped

namespace Rig

def plane : Plane Tapped := Memory.plane.faulty.recorded

def host : Host (AgentState Tapped) :=
  Agent.host plane Tapped.collect (·.memory.board.isShutDown)

def ofOptions (options : List (String × String)) : Rig :=
  { tap := { plane := { plane := { board := .ofOptions options } } } }

def memory (rig : Rig) : Memory := rig.tap.memory

/-- Makes requests of the agent fail by one more rule, which is tried last. -/
def addRule (rule : FaultRule) (rig : Rig) : Rig :=
  { rig with tap.plane.rules := rig.tap.plane.rules ++ [rule] }

def clearRules (rig : Rig) : Rig := { rig with tap.plane.rules := [] }

/-- Gives the agent keys in the place of the table's, or the table's again. -/
def scriptKeys (keys? : Option (List Key)) (rig : Rig) : Rig :=
  { rig with tap.plane.keys? := keys? }

/-- Puts the events that the plane has sent into the queue. -/
def settle (rig : Rig) : Rig :=
  let (events, tap) := rig.tap.collect
  { rig with tap, loop? := rig.loop?.map (·.send events) }

def updateMemory (f : Memory → Memory) (rig : Rig) : Rig :=
  settle { rig with tap := rig.tap.withMemory (f rig.memory) }

def request (r : Request) (rig : Rig) : Except Fault r.Answer × Rig :=
  let (answer, memory) := rig.memory.answer r
  (answer, rig.updateMemory fun _ => memory)

/-- Computes against the plane as the agent reaches it. -/
def viaTap {α : Type} (act : PlaneM Tapped α) (rig : Rig) : Except Fault α × Rig :=
  let (result, tap) := act.run.run rig.tap
  (result, settle { rig with tap })

/-- Drops the agent and builds another one. There is none if this fails. -/
def build (config : Config) (rig : Rig) : Except Fault Unit × Rig :=
  match viaTap (Agent.build plane config) { rig with agent? := none } with
  | (.ok agent, rig) => (.ok (), { rig with agent? := some agent })
  | (.error fault, rig) => (.error fault, rig)

/-- The test bed after its agent and its plane have become what a state says. -/
def resume (rig : Rig) (s : AgentState Tapped) : Rig :=
  settle { rig with tap := s.plane, agent? := some s.agent }

/-- Has the agent handle an event that does not come from the queue. -/
def handle (agent : Agent) (e : Event) (rig : Rig) : Except Fault Unit × Rig :=
  let (result, s) := (Agent.handle plane e).run.run { agent, plane := rig.tap }
  (result, rig.resume s)

/-- Sends events to the queue, and says how many it took. -/
def play (events : List Event) (rig : Rig) : Nat × Rig :=
  match rig.loop? with
  | some l => (events.length, { rig with loop? := some (l.send events) })
  | none => (0, rig)

/-- Has the loop deliver an event at once. -/
def dispatch (agent : Agent) (l : Loop) (e : Event) (rig : Rig) : Except Fault Unit × Rig :=
  let (result, s, l) := l.dispatch host e { agent, plane := rig.tap }
  (result, resume { rig with loop? := some l } s)

/-- The test bed after its loop came so far. -/
def advance (rig : Rig) (p : Progress (AgentState Tapped)) : Progress Rig :=
  { p with host := resume { rig with loop? := some p.loop } p.host }

/-- Has the loop deliver the events that wait and those raised meanwhile. -/
def drain (agent : Agent) (l : Loop) (rig : Rig) : Progress Rig :=
  rig.advance <|
    l.drain host (rig.memory.deliveryBound l.pending.length) { agent, plane := rig.tap }

def run (agent : Agent) (l : Loop) (rig : Rig) : Progress Rig :=
  rig.advance <|
    l.run host true (rig.memory.deliveryBound l.pending.length) { agent, plane := rig.tap }

def dropLoop (rig : Rig) : Rig := { rig with loop? := none }

def listening (rig : Rig) : Bool := rig.loop?.isSome

def apply (c : Command) (rig : Rig) : Except Fault Console.Verdict × Rig :=
  let (verdict, memory) := Console.apply rig.listening c rig.memory
  (verdict, rig.updateMemory fun _ => memory)

/-- Has the console read an input, and says how many commands it applied. -/
def readConsole (input : List Line) (rig : Rig) : Nat × Rig :=
  let closing := Console.run rig.listening input rig.memory
  (closing.applied, { rig.updateMemory fun _ => closing.memory with stopped := closing.stopped })

end Rig

end MacAgent
