import Mathlib.Order.Defs.Unbundled
import MacAgent.Agent.Batch
import MacAgent.Agent.Survey
import MacAgent.Proofs.Cursor.Feed

/-! # What computations keep

`Keeps R act` says that every run of `act` leads from its first state to one that the preorder `R`
relates to it, whether it fails or not. It is shown for a computation from its parts, so a frame
condition on an agent's work comes down to one on the requests that it sends. -/

namespace MacAgent

theorem run_batchStep_ok {τ : Type} {change : ExceptT Fault (StateM τ) Unit} {s t : τ}
    (h : change.run.run s = (.ok (), t)) (k : Key) (r : Report) :
    (batchStep change k r).run.run s = (.ok { r with total := r.total + 1 }, t) := by
  unfold batchStep
  rw [run_bind, run_attempt, h]
  rfl

/-- Every run of the computation leads to a state that `R` relates to the first one. -/
def Keeps {τ α : Type} (R : τ → τ → Prop) (act : ExceptT Fault (StateM τ) α) : Prop :=
  ∀ s, R s (act.run.run s).2

namespace Keeps

variable {τ α β : Type} {R : τ → τ → Prop}

theorem modify {f : τ → τ} (h : ∀ s, R s (f s)) :
    Keeps R (modify f : ExceptT Fault (StateM τ) PUnit) := h

theorem attempt {act : ExceptT Fault (StateM τ) α} (h : Keeps R act) : Keeps R (attempt act) := h

theorem ite {c : Prop} [Decidable c] {act act' : ExceptT Fault (StateM τ) α} (h : Keeps R act)
    (h' : Keeps R act') : Keeps R (if c then act else act') := by
  split
  · exact h
  · exact h'

variable [IsPreorder τ R]

theorem pure (a : α) : Keeps R (pure a : ExceptT Fault (StateM τ) α) := refl_of R

theorem throw (fault : Fault) : Keeps R (throw fault : ExceptT Fault (StateM τ) α) := refl_of R

theorem get : Keeps R (get : ExceptT Fault (StateM τ) τ) := refl_of R

theorem bind {act : ExceptT Fault (StateM τ) α} {f : α → ExceptT Fault (StateM τ) β}
    (h : Keeps R act) (hf : ∀ a, Keeps R (f a)) : Keeps R (act >>= f) := by
  intro s
  have first := h s
  rw [run_bind]
  rcases run : act.run.run s with ⟨_ | a, t⟩ <;> rw [run] at first
  · exact first
  · exact trans_of R first (hf a t)

theorem onFault {act : PlaneM τ α} {change : τ → τ} (h : Keeps R act) (hc : ∀ s, R s (change s)) :
    Keeps R (onFault act change) := by
  refine h.attempt.bind fun result => ?_
  cases result with
  | ok a => exact .pure a
  | error fault => exact (Keeps.modify hc).bind fun _ => .throw fault

theorem foldlM {f : β → α → ExceptT Fault (StateM τ) β} (h : ∀ b a, Keeps R (f b a)) (l : List α)
    (b : β) : Keeps R (l.foldlM f b) := by
  induction l generalizing b with
  | nil => exact pure b
  | cons a l ih =>
    rw [List.foldlM_cons]
    exact bind (h b a) ih

end Keeps

/-- The plane answers the requests that `P` allows, and takes note of polls, in the way of `R`. -/
structure Plane.Heeds {σ : Type} (plane : Plane σ) (P : Request → Prop) (R : σ → σ → Prop) : Prop where
  answer : ∀ r, P r → ∀ s, R s (plane.answer r s).2
  polled : ∀ source n s, R s (plane.polled source n s)

namespace Plane.Heeds

variable {σ α β : Type} {plane : Plane σ} {P : Request → Prop} {R : σ → σ → Prop}

theorem call (h : plane.Heeds P R) {r : Request} (hr : P r) : Keeps R (plane.call r) := h.answer r hr

variable [IsPreorder σ R]

theorem traverse [Inhabited α] (h : plane.Heeds P R) {bridge : Bridge} {source : Source}
    {isEnd : α → Bool} (ending : isEnd default = true) {items : List α} {act : β → α → PlaneM σ β}
    (hact : ∀ b a, Keeps R (act b a)) (acc : β) :
    Keeps R (plane.traverse bridge source isEnd items act acc) := by
  have poll (polls : σ → Nat) (s : σ) : Keeps R (modify (plane.polled source (polls s)) : PlaneM σ PUnit) :=
    .modify (h.polled source (polls s))
  refine plane.traverse_induction (motive := fun _ _ act => Keeps R act) ending ?_ ?_ acc
  · exact fun acc polls => Keeps.get.bind fun s => (poll polls s).bind fun _ => .pure acc
  · exact fun acc item rest polls dropped next hnext =>
      Keeps.get.bind fun s => (poll polls s).bind fun _ =>
        ((hact acc item).onFault fun t => h.polled source (dropped s t) t).bind (hnext s)

theorem batchStep {change : PlaneM σ Unit} (h : Keeps R change) (k : Key) (r : Report) :
    Keeps R (batchStep change k r) := by
  refine h.attempt.bind fun result => ?_
  cases result with
  | ok _ => exact .pure _
  | error fault => exact .ite (.throw fault) (.pure _)

theorem bindAll (h : plane.Heeds P R) (install : ∀ e, P (.install e)) (bindings : List (Key × Interface)) :
    Keeps R (plane.bindAll bindings) :=
  .foldlM (fun r (k, _) => batchStep (h.call (install _)) k r) bindings {}

theorem clearAll (h : plane.Heeds P R) (keys : P .keys) (delete : ∀ k, P (.delete k)) (bridge : Bridge) :
    Keeps R (plane.clearAll bridge) :=
  (h.call keys).bind fun _ => h.traverse rfl (fun r k => batchStep (h.call (delete k)) k r) {}

theorem surveyKey (h : plane.Heeds P R) (lookup : ∀ k, P (.lookup k))
    (publish : ∀ e : Entry, P (.publish e.key.render e.render)) (seen : List (Key × Entry)) (k : Key) :
    Keeps R (plane.surveyKey seen k) := by
  refine (h.call (lookup k)).attempt.bind fun result => ?_
  match result with
  | .ok (some e) => exact (h.call (publish e)).bind fun _ => .pure _
  | .ok none => exact .pure seen
  | .error fault => exact .ite (.throw fault) (.pure seen)

theorem survey (h : plane.Heeds P R) (keys : P .keys) (lookup : ∀ k, P (.lookup k))
    (publish : ∀ e : Entry, P (.publish e.key.render e.render)) (bridge : Bridge) :
    Keeps R (plane.survey bridge) :=
  (h.call keys).bind fun _ => h.traverse rfl (h.surveyKey lookup publish) []

end Plane.Heeds

end MacAgent
