import MacAgent.Plane.Recorded
import MacAgent.Proofs.Plane.Keeps

/-! # What was asked of a plane

The exchanges of a recorded plane only grow. `Recorded.Asked P` says that all that came to them is
requests that `P` allows, whatever the plane answers. -/

namespace MacAgent

namespace Recorded

variable {σ : Type} {P : Request → Prop}

/-- Only requests that `P` allows were sent from `s` to `t`. -/
def Asked (P : Request → Prop) (s t : Recorded σ) : Prop :=
  ∃ calls, t.exchanges = s.exchanges ++ calls ∧ ∀ x ∈ calls, P x.request

instance : IsPreorder (Recorded σ) (Asked P) where
  refl s := ⟨[], (List.append_nil _).symm, by simp⟩
  trans s t u := by
    rintro ⟨calls, ht, h⟩ ⟨calls', hu, h'⟩
    refine ⟨calls ++ calls', by rw [hu, ht, List.append_assoc], fun x hx => ?_⟩
    exact (List.mem_append.mp hx).elim (h x) (h' x)

@[simp]
theorem polled_exchanges (plane : Plane σ) (source : Source) (n : Nat) (s : Recorded σ) :
    (polled plane source n s).exchanges = s.exchanges := by
  cases source <;> rfl

/-- A call adds one exchange, with its answer. -/
theorem call_cases (plane : Plane σ) (r : Request) (s : Recorded σ) :
    ∃ answer t, (plane.recorded.call r).run.run s = (answer, t) ∧
      t.exchanges = s.exchanges ++ [⟨r, answer⟩] := ⟨_, _, rfl, rfl⟩

theorem run_call {plane : Plane σ} {r : Request} {s : Recorded σ} {a : Except Fault r.Answer} {t : σ}
    (h : plane.answer r s.plane = (a, t)) : (plane.recorded.call r).run.run s =
      (a, { s with plane := t, exchanges := s.exchanges ++ [⟨r, a⟩] }) := by
  show answer plane r s = _
  unfold answer
  rw [h]

theorem heeds (plane : Plane σ) (P : Request → Prop) : plane.recorded.Heeds P (Asked P) where
  answer r hr s := ⟨[⟨r, (plane.answer r s.plane).1⟩], rfl, by simpa using hr⟩
  polled source n s := ⟨[], by rw [List.append_nil]; exact polled_exchanges plane source n s, by simp⟩

end Recorded

end MacAgent
