import MacAgent.Plane.Basic

/-! # Runs of computations

A computation of a plane runs from a state to a result and another state. Its run is made of the runs of
its parts. -/

namespace MacAgent

variable {τ α β : Type}

theorem run_bind (act : ExceptT Fault (StateM τ) α) (f : α → ExceptT Fault (StateM τ) β) (s : τ) :
    (act >>= f).run.run s =
      match act.run.run s with
      | (.ok a, t) => (f a).run.run t
      | (.error fault, t) => (.error fault, t) := by
  show (ExceptT.bindCont f (act.run.run s).1).run (act.run.run s).2 = _
  rcases act.run.run s with ⟨result, t⟩
  cases result <;> rfl

theorem run_bind_ok {act : ExceptT Fault (StateM τ) α} {f : α → ExceptT Fault (StateM τ) β} {s t : τ}
    {a : α} (h : act.run.run s = (.ok a, t)) : (act >>= f).run.run s = (f a).run.run t := by
  rw [run_bind, h]

theorem run_bind_error {act : ExceptT Fault (StateM τ) α} {f : α → ExceptT Fault (StateM τ) β} {s t : τ}
    {fault : Fault} (h : act.run.run s = (.error fault, t)) :
    (act >>= f).run.run s = (.error fault, t) := by
  rw [run_bind, h]

theorem run_attempt (act : ExceptT Fault (StateM τ) α) (s : τ) :
    (attempt act).run.run s = (.ok (act.run.run s).1, (act.run.run s).2) := rfl

/-! ### Failures that change the state -/

theorem run_onFault_ok {act : PlaneM τ α} {change : τ → τ} {s t : τ} {a : α}
    (h : act.run.run s = (.ok a, t)) : (onFault act change).run.run s = (.ok a, t) := by
  unfold onFault
  rw [run_bind, run_attempt, h]
  rfl

theorem run_onFault_error {act : PlaneM τ α} {change : τ → τ} {s t : τ} {fault : Fault}
    (h : act.run.run s = (.error fault, t)) :
    (onFault act change).run.run s = (.error fault, change t) := by
  unfold onFault
  rw [run_bind, run_attempt, h]
  rfl

/-- The change shows in the state alone, and not at all where it does not show in what is seen of it. -/
theorem onFault_unseen {ν : Type} {view : τ → ν} {change : τ → τ} (unseen : ∀ s, view (change s) = view s)
    (act : PlaneM τ α) (s : τ) :
    ((onFault act change).run.run s).1 = (act.run.run s).1 ∧
      view ((onFault act change).run.run s).2 = view (act.run.run s).2 := by
  rcases run : act.run.run s with ⟨fault | a, t⟩
  · rw [run_onFault_error run]
    exact ⟨rfl, unseen t⟩
  · rw [run_onFault_ok run]
    exact ⟨rfl, rfl⟩

theorem onFault_same (act : PlaneM τ α) : (onFault act fun s => s) = act := by
  funext s
  rcases run : act.run.run s with ⟨fault | a, t⟩
  · exact (run_onFault_error run).trans run.symm
  · exact (run_onFault_ok run).trans run.symm

end MacAgent
