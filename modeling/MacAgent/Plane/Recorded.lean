import MacAgent.Plane.Basic

/-! # Recording a plane

What an agent does to its plane shows in the requests it sends, the answers it gets, and the polls
of the cursors that it gets. A recorded plane keeps all of them and changes none. -/

namespace MacAgent

structure Exchange where
  request : Request
  answer : Except Fault request.Answer

/-- A plane's state, and what went on so far. -/
structure Recorded (σ : Type) where
  plane : σ
  /-- All requests with their answers, in order. -/
  exchanges : List Exchange := []
  /-- How often cursors over options have been polled. -/
  optionPolls : Nat := 0
  /-- How often cursors over keys have been polled. -/
  tablePolls : Nat := 0

namespace Recorded

variable {σ : Type} (plane : Plane σ)

/-- Passes a request on and keeps it with its answer. -/
def answer (r : Request) (s : Recorded σ) : Except Fault r.Answer × Recorded σ :=
  let (answer, inner) := plane.answer r s.plane
  (answer, { s with plane := inner, exchanges := s.exchanges ++ [⟨r, answer⟩] })

def polled (source : Source) (polls : Nat) (s : Recorded σ) : Recorded σ :=
  let inner := plane.polled source polls s.plane
  match source with
  | .options => { s with plane := inner, optionPolls := s.optionPolls + polls }
  | .table => { s with plane := inner, tablePolls := s.tablePolls + polls }

end Recorded

/-- The plane that also keeps what goes on. -/
def Plane.recorded {σ : Type} (plane : Plane σ) : Plane (Recorded σ) where
  answer := Recorded.answer plane
  polled := Recorded.polled plane
  lead s := plane.lead s.plane

end MacAgent
