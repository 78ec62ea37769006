import MacAgent.Proofs.Memory.Frame
import MacAgent.Rig.Basic

/-! # The plane of a test bed

What the plane in memory heeds, the agent's plane heeds too: a request that fails on purpose, or is
answered in the place of the plane, does not reach it. Without rules, every request reaches it. -/

namespace MacAgent

namespace Faulty

variable {σ : Type} (plane : Plane σ) (r : Request) (s : Faulty σ)

theorem serve_of_ne_keys (h : r ≠ .keys) : serve plane r s = s.relay plane r := by
  cases r with
  | keys => exact absurd rfl h
  | _ => rfl

theorem serve_cases : serve plane r s = s.relay plane r ∨ (serve plane r s).2 = s := by
  by_cases h : r = .keys
  · subst h
    unfold serve
    cases s.keys? with
    | some keys => exact .inr rfl
    | none => exact .inl rfl
  · exact .inl (serve_of_ne_keys plane r s h)

theorem serve_rules : (serve plane r s).2.rules = s.rules := by
  rcases serve_cases plane r s with relayed | kept
  · rw [relayed]
    rfl
  · rw [kept]

theorem answer_plane : (answer plane r s).2.plane = s.plane ∨
    (answer plane r s).2.plane = (plane.answer r s.plane).2 := by
  unfold answer
  rcases FaultRule.fire r s.rules with ⟨fault | _, rules⟩
  · dsimp only
    rcases serve_cases plane r { s with rules } with relayed | kept
    · rw [relayed]
      exact .inr rfl
    · rw [kept]
      exact .inl rfl
  · exact .inl rfl

variable {s}

theorem answer_of_clear (clear : s.rules = []) : answer plane r s = serve plane r s := by
  unfold answer
  rw [clear]
  rcases s with ⟨inner, rules, keys?⟩
  obtain rfl : rules = [] := clear
  rfl

end Faulty

namespace Tapped

/-- The plane behind the tap moves in the way of a relation, and no rules come in. -/
structure Under (R : Memory → Memory → Prop) (t t' : Tapped) : Prop where
  clear : t.plane.rules = [] → t'.plane.rules = []
  memory : R t.memory t'.memory

instance {R : Memory → Memory → Prop} [IsPreorder Memory R] : IsPreorder Tapped (Under R) where
  refl _ := ⟨id, refl_of R _⟩
  trans _ _ _ h h' := ⟨h'.clear ∘ h.clear, trans_of R h.memory h'.memory⟩

end Tapped

namespace Rig

variable {P : Request → Prop} {R : Memory → Memory → Prop}

theorem answer_tap (r : Request) (t : Tapped) :
    (plane.answer r t).2.plane = (Faulty.answer Memory.plane r t.plane).2 := rfl

theorem heeds [IsPreorder Memory R] (h : Memory.plane.Heeds P R) : plane.Heeds P (Tapped.Under R) where
  answer r hr t := by
    refine ⟨fun clear => ?_, ?_⟩
    · rw [answer_tap, Faulty.answer_of_clear _ _ clear, Faulty.serve_rules, clear]
    · unfold Tapped.memory
      rw [answer_tap]
      rcases Faulty.answer_plane Memory.plane r t.plane with kept | answered
      · rw [kept]
        exact refl_of R _
      · rw [answered]
        exact h.answer r hr _
  polled source n t := by
    cases source with
    | options => exact ⟨id, h.polled .options n t.memory⟩
    | table => exact ⟨id, h.polled .table n t.memory⟩

/-- Without rules, a request that reaches its manager is served by the plane in memory. Keys may still
come from elsewhere. -/
theorem run_call {r : Request} (hr : r ≠ .keys) {t : Tapped} (clear : t.plane.rules = [])
    (reaches : t.memory.reaches r) : ∃ t', (plane.call r).run.run t = ((t.memory.serve r).1, t') ∧
      t'.plane.rules = [] ∧ t'.memory = (t.memory.serve r).2 := by
  have relayed : Faulty.answer Memory.plane r t.plane = t.plane.relay Memory.plane r := by
    rw [Faulty.answer_of_clear _ _ clear, Faulty.serve_of_ne_keys _ _ _ hr]
  have answer : (plane.answer r t).1 = (t.memory.answer r).1 := congrArg Prod.fst relayed
  have tap : (plane.answer r t).2.plane = (t.plane.relay Memory.plane r).2 := congrArg Prod.snd relayed
  rw [Memory.answer_of_reaches reaches] at answer
  refine ⟨(plane.answer r t).2, Prod.ext answer rfl, ?_, ?_⟩
  · rw [tap]
    exact clear
  · rw [← Memory.answer_of_reaches reaches]
    unfold Tapped.memory
    rw [tap]
    rfl

end Rig

end MacAgent
