import MacAgent.Proofs.Plane.Keeps

/-! # Computations that look alike

A view of a plane's state shows a part of it. Two computations are alike under a view if they do the same
as far as it shows. Traversals by different bridges are alike under every view in which polls and the
threads that make them do not show: each is alike a plain recursion over the items. -/

namespace MacAgent

variable {τ ν α β : Type}

/-- From states between which the view shows no difference, both computations give the same result, and
lead to states between which it shows none. -/
def Alike (view : τ → ν) (act act' : ExceptT Fault (StateM τ) α) : Prop :=
  ∀ s t, view s = view t →
    (act.run.run s).1 = (act'.run.run t).1 ∧ view (act.run.run s).2 = view (act'.run.run t).2

namespace Alike

variable {view : τ → ν} {act act' act'' : ExceptT Fault (StateM τ) α}
  {f f' : α → ExceptT Fault (StateM τ) β}

theorem symm (h : Alike view act act') : Alike view act' act := fun s t same =>
  have ⟨result, seen⟩ := h t s same.symm
  ⟨result.symm, seen.symm⟩

theorem trans (h : Alike view act act') (h' : Alike view act' act'') : Alike view act act'' := by
  intro s t same
  obtain ⟨result, seen⟩ := h s s rfl
  obtain ⟨result', seen'⟩ := h' s t same
  exact ⟨result.trans result', seen.trans seen'⟩

theorem pure (a : α) : Alike view (pure a) (pure a) := fun _ _ same => ⟨rfl, same⟩

theorem throw (fault : Fault) :
    Alike view (throw fault : ExceptT Fault (StateM τ) α) (throw fault) := fun _ _ same => ⟨rfl, same⟩

theorem attempt (h : Alike view act act') : Alike view (attempt act) (attempt act') := by
  intro s t same
  obtain ⟨result, seen⟩ := h s t same
  rw [run_attempt, run_attempt]
  exact ⟨congrArg Except.ok result, seen⟩

theorem bind (h : Alike view act act') (hf : ∀ a, Alike view (f a) (f' a)) :
    Alike view (act >>= f) (act' >>= f') := by
  intro s t same
  obtain ⟨result, seen⟩ := h s t same
  rw [run_bind, run_bind]
  rcases run : act.run.run s with ⟨first, u⟩
  rcases run' : act'.run.run t with ⟨first', u'⟩
  rw [run, run'] at result seen
  obtain rfl : first = first' := result
  cases first with
  | error fault => exact ⟨rfl, seen⟩
  | ok a => exact hf a u u' seen

theorem onFault {plain other : PlaneM τ α} {change : τ → τ} (h : Alike view plain other)
    (unseen : ∀ s, view (change s) = view s) : Alike view (onFault plain change) other := by
  intro s t same
  obtain ⟨result, seen⟩ := h s t same
  obtain ⟨result', seen'⟩ := onFault_unseen unseen plain s
  exact ⟨result'.trans result, seen'.trans seen⟩

theorem ite {c : Prop} [Decidable c] {act₁ act₁' : ExceptT Fault (StateM τ) α} (h : Alike view act act')
    (h₁ : Alike view act₁ act₁') : Alike view (if c then act else act₁) (if c then act' else act₁') := by
  split
  · exact h
  · exact h₁

theorem foldlM {f : β → α → ExceptT Fault (StateM τ) β} (h : ∀ b a, Alike view (f b a) (f b a))
    (l : List α) (b : β) : Alike view (l.foldlM f b) (l.foldlM f b) := by
  induction l generalizing b with
  | nil => exact pure b
  | cons a l ih =>
    rw [List.foldlM_cons]
    exact bind (h b a) ih

/-- What does not show may as well not be done. -/
theorem unseen {g : τ → τ → τ} {k : τ → ExceptT Fault (StateM τ) α} (hg : ∀ s t, view (g s t) = view t)
    (h : ∀ s, Alike view (k s) act) :
    Alike view (do
      let s ← get
      modify (g s)
      k s) act := by
  intro s t same
  exact h s (g s s) t ((hg s s).trans same)

end Alike

/-- The view shows all that the plane's answers depend on, and does not show polls. -/
structure Plane.SeenBy {σ : Type} (plane : Plane σ) (view : σ → ν) : Prop where
  answer : ∀ r s t, view s = view t →
    (plane.answer r s).1 = (plane.answer r t).1 ∧ view (plane.answer r s).2 = view (plane.answer r t).2
  polled : ∀ source n s, view (plane.polled source n s) = view s

namespace Plane.SeenBy

variable {σ : Type} {plane : Plane σ} {view : σ → ν}

theorem call (h : plane.SeenBy view) (r : Request) : Alike view (plane.call r) (plane.call r) := h.answer r

/-- A traversal by either bridge is alike a recursion over the items before the first end. -/
theorem traverse_foldlM [Inhabited α] (h : plane.SeenBy view) {bridge : Bridge} {source : Source}
    {isEnd : α → Bool} (ending : isEnd default = true) {items : List α} {act : β → α → PlaneM σ β}
    (hact : ∀ b a, Alike view (act b a) (act b a)) (acc : β) :
    Alike view (plane.traverse bridge source isEnd items act acc)
      ((items.takeWhile (!isEnd ·)).foldlM act acc) := by
  refine plane.traverse_induction (motive := fun acc items visit => Alike view visit (items.foldlM act acc))
    ending ?_ ?_ acc
  · intro acc polls
    exact Alike.unseen (fun s t => h.polled source (polls s) t) fun _ => .pure acc
  · intro acc item rest polls dropped next hnext
    rw [List.foldlM_cons]
    refine Alike.unseen (fun s t => h.polled source (polls s) t) fun s => ?_
    exact ((hact acc item).onFault fun t => h.polled source (dropped s t) t).bind (hnext s)

theorem traverse [Inhabited α] (h : plane.SeenBy view) (bridge bridge' : Bridge) {source : Source}
    {isEnd : α → Bool} (ending : isEnd default = true) {items : List α} {act : β → α → PlaneM σ β}
    (hact : ∀ b a, Alike view (act b a) (act b a)) (acc : β) :
    Alike view (plane.traverse bridge source isEnd items act acc)
      (plane.traverse bridge' source isEnd items act acc) :=
  (h.traverse_foldlM ending hact acc).trans (h.traverse_foldlM ending hact acc).symm

theorem batchStep {change : PlaneM σ Unit} (h : Alike view change change) (k : Key) (r : Report) :
    Alike view (batchStep change k r) (batchStep change k r) := by
  refine h.attempt.bind fun result => ?_
  cases result with
  | ok _ => exact .pure _
  | error fault => exact .ite (.throw fault) (.pure _)

theorem bindAll (h : plane.SeenBy view) (bindings : List (Key × Interface)) :
    Alike view (plane.bindAll bindings) (plane.bindAll bindings) :=
  .foldlM (fun r (k, _) => batchStep (h.call _) k r) bindings {}

theorem clearAll (h : plane.SeenBy view) (bridge bridge' : Bridge) :
    Alike view (plane.clearAll bridge) (plane.clearAll bridge') :=
  (h.call .keys).bind fun _ =>
    h.traverse bridge bridge' rfl (fun r k => batchStep (h.call (.delete k)) k r) {}

theorem surveyKey (h : plane.SeenBy view) (seen : List (Key × Entry)) (k : Key) :
    Alike view (plane.surveyKey seen k) (plane.surveyKey seen k) := by
  refine (h.call (.lookup k)).attempt.bind fun result => ?_
  match result with
  | .ok (some e) => exact (h.call (.publish e.key.render e.render)).bind fun _ => .pure _
  | .ok none => exact .pure seen
  | .error fault => exact .ite (.throw fault) (.pure seen)

theorem survey (h : plane.SeenBy view) (bridge bridge' : Bridge) :
    Alike view (plane.survey bridge) (plane.survey bridge') :=
  (h.call .keys).bind fun _ => h.traverse bridge bridge' rfl h.surveyKey []

end Plane.SeenBy

end MacAgent
