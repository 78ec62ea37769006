import MacAgent.Agent.Basic
import MacAgent.Loop.Basic
import MacAgent.Memory.Basic

/-! # The agent in its event loop

The loop hands its events to the agent; what the plane sends meanwhile goes to the end of the queue.
Only installing and clearing raise events, and the events they raise ask for no work, so a bound on
the number of deliveries is known from the queue and the table. -/

namespace MacAgent

/-- The events in the outbox, and the plane with an empty one. -/
def Memory.collect (m : Memory) : List Event × Memory :=
  (m.outbox, { m with outbox := [] })

/-- A number of deliveries after which nothing waits in a queue that now holds `pending` events.
Each of them installs at most two entries or deletes at most all, and raises an event for each. -/
def Memory.deliveryBound (m : Memory) (pending : Nat) : Nat :=
  pending * (m.table.entries.length + 2 * pending + 4)

/-- The agent as the host of a loop. The plane's outbox is read by `collect`. -/
def Agent.host {σ : Type} (plane : Plane σ) (collect : σ → List Event × σ) (isDown : σ → Bool) :
    Host (AgentState σ) where
  react e s :=
    let (result, s) := (Agent.handle plane e).run.run s
    let (raised, plane) := collect s.plane
    { result, raised, next := { s with plane } }
  isDown s := isDown s.plane

def Agent.memoryHost : Host (AgentState Memory) :=
  Agent.host Memory.plane Memory.collect (·.board.isShutDown)

end MacAgent
