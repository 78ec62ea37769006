import MacAgent.Proofs.Plane.Alike
import MacAgent.Proofs.Plane.Asked

/-! # What a batch reports

A batch in which no change fails fatally makes all of its changes, and lists those that were refused. What
they do to the plane is shown by an invariant that speaks of the changes made so far. -/

namespace MacAgent

section Batch

variable {σ α : Type} {change : α → PlaneM σ Unit} {refused : α → Prop} [DecidablePred refused]
  {fault : α → Fault} {P : List α → σ → Prop} {items done rest : List α}

theorem run_batchStep {change : PlaneM σ Unit} {refused : Prop} [Decidable refused] {fault : Fault} {s t : σ}
    (run : change.run.run s = (if refused then .error fault else .ok (), t)) (mild : ¬fault.isFatal) (k : Key)
    (r : Report) : (batchStep change k r).run.run s =
      (.ok ⟨r.total + 1, r.failed ++ if refused then [(k, fault.message)] else []⟩, t) := by
  by_cases h : refused
  · rw [if_pos h] at run ⊢
    have tried : (attempt change).run.run s = (.ok (.error fault), t) := by rw [run_attempt, run]
    refine (run_bind_ok tried).trans ?_
    dsimp only
    rw [if_neg mild]
    rfl
  · rw [if_neg h] at run ⊢
    rw [run_batchStep_ok run, List.append_nil]

/-- A batch makes all changes if none can fail fatally, and keeps what each of them keeps. -/
theorem run_batch (key : α → Key) (mild : ∀ a, ¬(fault a).isFatal)
    (step : ∀ done a rest s, items = done ++ a :: rest → P done s →
      ∃ t, (change a).run.run s = (if refused a then .error (fault a) else .ok (), t) ∧ P (done ++ [a]) t)
    (split : items = done ++ rest) {s : σ} (h : P done s) (r : Report) :
    ∃ t, (rest.foldlM (fun r a => batchStep (change a) (key a) r) r).run.run s =
        (.ok ⟨r.total + rest.length,
          r.failed ++ (rest.filter refused).map fun a => (key a, (fault a).message)⟩, t) ∧
      P items t := by
  induction rest generalizing done s r with
  | nil =>
    rw [List.append_nil] at split
    subst split
    exact ⟨s, by rw [List.filter_nil, List.map_nil, List.append_nil]; rfl, h⟩
  | cons a rest ih =>
    obtain ⟨t, changed, h⟩ := step done a rest s split h
    have first := run_batchStep changed (mild a) (key a) r
    obtain ⟨u, later, h⟩ := ih (by rw [split, List.append_assoc]; rfl) h
      ⟨r.total + 1, r.failed ++ if refused a then [(key a, (fault a).message)] else []⟩
    refine ⟨u, ?_, h⟩
    rw [List.foldlM_cons, run_bind_ok first, later, List.length_cons, List.append_assoc, Nat.add_right_comm,
      Nat.add_assoc]
    by_cases here : refused a
    · rw [if_pos here, List.filter_cons_of_pos (by simpa using here)]
      rfl
    · rw [if_neg here, List.filter_cons_of_neg (by simpa using here)]
      rfl

end Batch

/-- A batch does not report more failures than changes. -/
theorem Report.isSound_of_filter {α : Type} (items : List α) (refused : α → Bool) (f : α → Key × String) :
    IsSound ⟨items.length, (items.filter refused).map f⟩ := by
  unfold IsSound
  rw [List.length_map]
  exact List.length_filter_le refused items

namespace Recorded

variable {σ : Type} {plane : Plane σ}

/-- Of a plane that takes no note of polls, polls do not show. -/
theorem seenBy (still : ∀ source n s, plane.polled source n s = s) :
    plane.recorded.SeenBy fun s => (s.plane, s.exchanges) where
  answer r s t same := by
    obtain ⟨inner, calls⟩ := Prod.mk.inj same
    simp only [Plane.recorded, Recorded.answer, inner, calls]
    exact ⟨trivial, trivial⟩
  polled source n s := by
    cases source with
    | options | table => exact Prod.ext (still _ n s.plane) rfl

/-- The bridge does not show in the plane or in the calls, so clearing the table may as well be a batch. -/
theorem run_clearAll (still : ∀ source n s, plane.polled source n s = s)
    {s t u : Recorded σ} {keys : List Key} {report : Report}
    (read : plane.recorded.keys.run.run s = (.ok keys, t)) (all : keys.takeWhile (!·.isEmpty) = keys)
    (run : (keys.foldlM (fun r k => batchStep (plane.recorded.delete k) k r) {}).run.run t = (.ok report, u))
    (bridge : Bridge) : ∃ u', (plane.recorded.clearAll bridge).run.run s = (.ok report, u') ∧
      u'.plane = u.plane ∧ u'.exchanges = u.exchanges := by
  let step (r : Report) (k : Key) : PlaneM (Recorded σ) Report := batchStep (plane.recorded.delete k) k r
  have seen := seenBy still
  have alike : Alike _ (plane.recorded.traverse bridge .table Key.isEmpty keys step {})
      ((keys.takeWhile (!·.isEmpty)).foldlM step {}) :=
    seen.traverse_foldlM rfl (fun r k => Plane.SeenBy.batchStep (seen.call (.delete k)) k r) {}
  obtain ⟨result, same⟩ := alike t t rfl
  rw [all, run] at result same
  rcases traversed : (plane.recorded.traverse bridge .table Key.isEmpty keys step {}).run.run t with ⟨_, u'⟩
  rw [traversed] at result same
  obtain rfl := result
  obtain ⟨inner, calls⟩ := Prod.mk.inj same
  exact ⟨u', (run_bind_ok read).trans traversed, inner, calls⟩

end Recorded

end MacAgent
