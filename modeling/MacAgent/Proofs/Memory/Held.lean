import MacAgent.Agent.Host
import MacAgent.Proofs.Memory.Frame

/-! # Planes that hold a table in memory

What an agent's plane does with the board is its own affair. Here the table behind the plane is the one in
memory, and a request that changes anything of it was passed on to it. So the table and the outbox move as
those in memory do, whatever the plane answers. -/

namespace MacAgent

variable {σ : Type} {memory : σ → Memory}

/-- The memory in the state of a plane moves in the way of a relation. -/
def Memory.Behind (memory : σ → Memory) (R : Memory → Memory → Prop) (s t : σ) : Prop := R (memory s) (memory t)

instance {R : Memory → Memory → Prop} [IsPreorder Memory R] : IsPreorder σ (Memory.Behind memory R) where
  refl s := refl_of R (memory s)
  trans _ _ _ h h' := trans_of R h h'

namespace Plane

/-- `memory` is what the plane holds of a plane in memory, and `collect` empties its outbox. -/
structure Holds (plane : Plane σ) (memory : σ → Memory) (collect : σ → List Event × σ) : Prop where
  /-- A request may be answered without passing it on. -/
  answer : ∀ r s, memory (plane.answer r s).2 = memory s ∨
    memory (plane.answer r s).2 = ((memory s).answer r).2
  polled : ∀ source n s, memory (plane.polled source n s) = memory s
  raised : ∀ s, (collect s).1 = (memory s).outbox
  collected : ∀ s, memory (collect s).2 = { memory s with outbox := [] }

namespace Holds

variable {plane : Plane σ} {collect : σ → List Event × σ} {R : Memory → Memory → Prop}

theorem call (h : plane.Holds memory collect) (refl : ∀ m, R m m) {r : Request}
    (passed : ∀ m : Memory, R m (m.answer r).2) : Keeps (Memory.Behind memory R) (plane.call r) := by
  intro s
  show R (memory s) (memory (plane.answer r s).2)
  rcases h.answer r s with own | answered
  · rw [own]
    exact refl _
  · rw [answered]
    exact passed _

/-- What a plane in memory heeds, any plane heeds that holds one. -/
theorem heeds [IsPreorder Memory R] {P : Request → Prop} (h : plane.Holds memory collect)
    (heeds : Memory.plane.Heeds P R) : plane.Heeds P (Memory.Behind memory R) where
  answer r hr := h.call (refl_of R) (heeds.answer r hr)
  polled source n s := by
    show R (memory s) (memory (plane.polled source n s))
    rw [h.polled]
    exact refl_of R _

end Holds

end Plane

theorem Memory.plane_holds : Memory.plane.Holds id Memory.collect :=
  ⟨fun _ _ => .inr rfl, fun _ _ _ => rfl, fun _ => rfl, fun _ => rfl⟩

end MacAgent
