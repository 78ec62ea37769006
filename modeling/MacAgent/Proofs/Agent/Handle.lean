import MacAgent.Agent.Basic
import MacAgent.Proofs.Memory.Frame
import MacAgent.Proofs.Plane.Keeps

/-! # Handling an event

Which computation an event starts, by the agent's phase. -/

namespace MacAgent

namespace Agent

variable {σ : Type} (plane : Plane σ) {s : AgentState σ}

theorem run_onPlane {α : Type} {act : PlaneM σ α} {result : Except Fault α} {p : σ}
    (h : act.run.run s.plane = (result, p)) :
    (onPlane act).run.run s = (result, { s with plane := p }) := by
  show ((act.run.run s.plane).1, { s with plane := (act.run.run s.plane).2 }) = _
  rw [h]

/-- What a working agent does about an event. -/
def respond : Event → AgentM σ Unit
  | .initialized => start plane
  | .enabled on => if on then pure () else shutDown plane
  | .option key value => handleOption plane key value
  | .entrySet _ | .entryDeleted _ => updateAgent fun a => { a with observed := a.observed + 1 }

theorem run_handle (e : Event) (s : AgentState σ) :
    (handle plane e).run.run s =
      match e with
      | .initialized => (if s.agent.phase ≠ .disabled then start plane else pure ()).run.run s
      | .enabled on => (if s.agent.phase ≠ .disabled ∧ !on then shutDown plane else pure ()).run.run s
      | .option key value =>
        (if s.agent.phase ≠ .disabled then handleOption plane key value else pure ()).run.run s
      | .entrySet _ | .entryDeleted _ => (.ok (), { s with agent.observed := s.agent.observed + 1 }) := by
  cases e with
  | initialized | enabled | option | entrySet | entryDeleted => rfl

theorem handle_of_working (working : s.agent.phase ≠ .disabled) (e : Event) :
    (handle plane e).run.run s = (respond plane e).run.run s := by
  rw [run_handle]
  cases e with
  | initialized =>
    dsimp only
    rw [if_pos working]
    rfl
  | enabled on =>
    dsimp only
    cases on with
    | true =>
      rw [if_neg (by simp)]
      rfl
    | false =>
      rw [if_pos ⟨working, rfl⟩]
      rfl
  | option key value =>
    dsimp only
    rw [if_pos working]
    rfl
  | entrySet entry => rfl
  | entryDeleted key => rfl

/-- A notice is counted, whatever the phase. -/
theorem handle_notice {e : Event} (notice : e.IsNotice) (s : AgentState σ) :
    (handle plane e).run.run s = (.ok (), { s with agent.observed := s.agent.observed + 1 }) := by
  cases notice with
  | entrySet | entryDeleted => rfl

theorem handle_idle (down : s.agent.phase = .disabled) {e : Event} (other : ¬e.IsNotice) :
    (handle plane e).run.run s = (.ok (), s) := by
  have idle : ¬s.agent.phase ≠ .disabled := not_not_intro down
  rw [run_handle]
  cases e with
  | initialized | option =>
    dsimp only
    rw [if_neg idle]
    rfl
  | enabled on =>
    dsimp only
    rw [if_neg fun h => idle h.1]
    rfl
  | entrySet entry => exact absurd (.entrySet entry) other
  | entryDeleted key => exact absurd (.entryDeleted key) other

/-- A disabled agent only counts the table events. -/
theorem handle_of_disabled (down : s.agent.phase = .disabled) (e : Event) :
    ∃ n, (handle plane e).run.run s = (.ok (), { s with agent.observed := n }) := by
  by_cases notice : e.IsNotice
  · exact ⟨_, handle_notice plane notice s⟩
  · exact ⟨s.agent.observed, handle_idle plane down notice⟩

end Agent

end MacAgent
