import MacAgent.Proofs.Plane.Keeps

/-! # Computations that succeed together

Two computations on different states are paired by a relation between their states if, from related
states, both succeed with the same result and lead to related states. So what the one does is known of the
other, and that neither fails is a part of it. It is shown for a computation from its parts. -/

namespace MacAgent

variable {σ τ α β : Type}

/-- From states that `R` relates, both computations give the same result, which is no fault, and lead to
states that `R` relates. -/
def Paired (R : σ → τ → Prop) (act : ExceptT Fault (StateM σ) α) (act' : ExceptT Fault (StateM τ) α) : Prop :=
  ∀ s t, R s t → ∃ a s' t', act.run.run s = (.ok a, s') ∧ act'.run.run t = (.ok a, t') ∧ R s' t'

namespace Paired

variable {R : σ → τ → Prop} {act : ExceptT Fault (StateM σ) α} {act' : ExceptT Fault (StateM τ) α}

theorem pure (a : α) : Paired R (pure a) (pure a) := fun s t h => ⟨a, s, t, rfl, rfl, h⟩

theorem bind {f : α → ExceptT Fault (StateM σ) β} {f' : α → ExceptT Fault (StateM τ) β}
    (h : Paired R act act') (hf : ∀ a, Paired R (f a) (f' a)) : Paired R (act >>= f) (act' >>= f') := by
  intro s t related
  obtain ⟨a, s₁, t₁, run, run', related⟩ := h s t related
  obtain ⟨b, s₂, t₂, later, later', related⟩ := hf a s₁ t₁ related
  exact ⟨b, s₂, t₂, (run_bind_ok run).trans later, (run_bind_ok run').trans later', related⟩

/-- There is no failure to go on after. -/
theorem attempt_bind {f : Except Fault α → ExceptT Fault (StateM σ) β}
    {f' : Except Fault α → ExceptT Fault (StateM τ) β} (h : Paired R act act')
    (hf : ∀ a, Paired R (f (.ok a)) (f' (.ok a))) : Paired R (attempt act >>= f) (attempt act' >>= f') := by
  intro s t related
  obtain ⟨a, s₁, t₁, run, run', related⟩ := h s t related
  obtain ⟨b, s₂, t₂, later, later', related⟩ := hf a s₁ t₁ related
  have tried : (attempt act).run.run s = (.ok (.ok a), s₁) := by rw [run_attempt, run]
  have tried' : (attempt act').run.run t = (.ok (.ok a), t₁) := by rw [run_attempt, run']
  exact ⟨b, s₂, t₂, (run_bind_ok tried).trans later, (run_bind_ok tried').trans later', related⟩

theorem ite {c : Prop} [Decidable c] {other : ExceptT Fault (StateM σ) α} {other' : ExceptT Fault (StateM τ) α}
    (h : Paired R act act') (h' : Paired R other other') :
    Paired R (if c then act else other) (if c then act' else other') := by
  split
  · exact h
  · exact h'

theorem foldlM {f : β → α → ExceptT Fault (StateM σ) β} {f' : β → α → ExceptT Fault (StateM τ) β} {l : List α}
    (h : ∀ a ∈ l, ∀ b, Paired R (f b a) (f' b a)) (b : β) : Paired R (l.foldlM f b) (l.foldlM f' b) := by
  induction l generalizing b with
  | nil => exact pure b
  | cons a l ih =>
    rw [List.foldlM_cons, List.foldlM_cons]
    exact bind (h a List.mem_cons_self b) fun b => ih (fun a member => h a (List.mem_cons_of_mem _ member)) b

theorem batchStep {change : PlaneM σ Unit} {change' : PlaneM τ Unit} (h : Paired R change change') (k : Key)
    (r : Report) : Paired R (batchStep change k r) (batchStep change' k r) :=
  h.attempt_bind fun _ => .pure _

end Paired

/-- Two planes answer the requests that `P` allows in the same way, without a fault, and keep what `R` says
of their states. Neither takes note of polls. -/
structure Plane.PairedOn (P : Request → Prop) (R : σ → τ → Prop) (plane : Plane σ) (plane' : Plane τ) : Prop where
  call : ∀ r, P r → Paired R (plane.call r) (plane'.call r)
  still : ∀ source n s, plane.polled source n s = s
  still' : ∀ source n t, plane'.polled source n t = t

namespace Plane.PairedOn

variable {P : Request → Prop} {R : σ → τ → Prop} {plane : Plane σ} {plane' : Plane τ}

theorem traverse [Inhabited α] (h : PairedOn P R plane plane') {bridge : Bridge} {source : Source}
    {isEnd : α → Bool} (ending : isEnd default = true) {items : List α} {act : β → α → PlaneM σ β}
    {act' : β → α → PlaneM τ β} (hact : ∀ b a, Paired R (act b a) (act' b a)) (acc : β) :
    Paired R (plane.traverse bridge source isEnd items act acc)
      (plane'.traverse bridge source isEnd items act' acc) := by
  rw [traverse_eq_foldlM h.still ending, traverse_eq_foldlM h.still' ending]
  exact .foldlM (fun a _ b => hact b a) acc

theorem bindAll (h : PairedOn P R plane plane') {bindings : List (Key × Interface)}
    (install : ∀ b ∈ bindings, P (.install (.unicast b.1 b.2))) :
    Paired R (plane.bindAll bindings) (plane'.bindAll bindings) :=
  .foldlM (fun b listed r => .batchStep (h.call _ (install b listed)) b.1 r) {}

theorem clearAll (h : PairedOn P R plane plane') (keys : P .keys) (delete : ∀ k, P (.delete k))
    (bridge : Bridge) : Paired R (plane.clearAll bridge) (plane'.clearAll bridge) :=
  (h.call _ keys).bind fun _ => h.traverse rfl (fun r k => .batchStep (h.call _ (delete k)) k r) {}

theorem surveyKey (h : PairedOn P R plane plane') (lookup : ∀ k, P (.lookup k))
    (publish : ∀ e : Entry, P (.publish e.key.render e.render)) (seen : List (Key × Entry)) (k : Key) :
    Paired R (plane.surveyKey seen k) (plane'.surveyKey seen k) := by
  refine (h.call _ (lookup k)).attempt_bind fun e? => ?_
  cases e? with
  | none => exact .pure seen
  | some e => exact (h.call _ (publish e)).bind fun _ => .pure _

theorem survey (h : PairedOn P R plane plane') (keys : P .keys) (lookup : ∀ k, P (.lookup k))
    (publish : ∀ e : Entry, P (.publish e.key.render e.render)) (bridge : Bridge) :
    Paired R (plane.survey bridge) (plane'.survey bridge) :=
  (h.call _ keys).bind fun _ => h.traverse rfl (h.surveyKey lookup publish) []

end Plane.PairedOn

end MacAgent
