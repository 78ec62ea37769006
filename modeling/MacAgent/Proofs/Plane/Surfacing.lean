import MacAgent.Plane.Recorded
import MacAgent.Proofs.Plane.Asked

/-! # Fatal faults surface

A computation surfaces fatal faults if it fails fatally just when one of its steps does: this is then
its last step, and it fails with the same fault. The other faults of its steps may be passed on,
collected or dropped. The steps are the requests that it sends, or the events that a loop delivers. -/

namespace MacAgent

/-- A step that failed with a fatal fault. -/
def Fatally {ι : Type} (fails : ι → Fault → Prop) (x : ι) : Prop :=
  ∃ fault : Fault, fault.isFatal ∧ fails x fault

/-- The steps of a computation that surfaces fatal faults, and its result. -/
inductive Surfaces {ι α : Type} (fails : ι → Fault → Prop) : List ι → Except Fault α → Prop where
  | calm {steps : List ι} {result : Except Fault α} (quiet : ∀ x ∈ steps, ¬Fatally fails x)
      (mild : ∀ fault, result = .error fault → ¬fault.isFatal) : Surfaces fails steps result
  | fatal {steps : List ι} {x : ι} {fault : Fault} (quiet : ∀ y ∈ steps, ¬Fatally fails y)
      (failed : fails x fault) (isFatal : fault.isFatal) :
      Surfaces fails (steps ++ [x]) (.error fault)

namespace Surfaces

variable {ι α β : Type} {fails : ι → Fault → Prop} {steps steps' : List ι} {fault : Fault}
  {result : Except Fault α}

theorem quiet (h : Surfaces fails steps result) (mild : ∀ fault, result = .error fault → ¬fault.isFatal) :
    ∀ x ∈ steps, ¬Fatally fails x := by
  cases h with
  | calm quiet _ => exact quiet
  | fatal _ _ isFatal => exact absurd isFatal (mild _ rfl)

theorem mild (h : Surfaces fails steps result) (quiet : ∀ x ∈ steps, ¬Fatally fails x) :
    ∀ fault, result = .error fault → ¬fault.isFatal := by
  cases h with
  | calm _ mild => exact mild
  | fatal _ failed isFatal => exact absurd ⟨_, isFatal, failed⟩ (quiet _ (by simp))

theorem mild_of_not {fault : Fault} (h : ¬fault.isFatal) :
    ∀ fault', (.error fault : Except Fault α) = .error fault' → ¬fault'.isFatal := by
  rintro fault' ⟨rfl⟩
  exact h

/-- A step that failed with a fatal fault is the last one, so its fault is the result. -/
theorem eq_error_of_mem {x : ι} (h : Surfaces fails steps result) (member : x ∈ steps) (failed : fails x fault)
    (isFatal : fault.isFatal) (only : ∀ fault', fails x fault' → fault' = fault) : result = .error fault := by
  cases h with
  | calm quiet _ => exact absurd ⟨fault, isFatal, failed⟩ (quiet x member)
  | fatal quiet failed' _ =>
    rcases List.mem_append.mp member with earlier | last
    · exact absurd ⟨fault, isFatal, failed⟩ (quiet x earlier)
    · obtain rfl := List.mem_singleton.mp last
      rw [only _ failed']

/-- A fatal fault comes from the last step, and ends whatever it interrupts. -/
theorem of_fatal (h : Surfaces fails steps (.error fault : Except Fault α)) (isFatal : fault.isFatal) :
    Surfaces fails steps (.error fault : Except Fault β) := by
  cases h with
  | calm _ mild => exact absurd isFatal (mild fault rfl)
  | fatal quiet failed isFatal => exact .fatal quiet failed isFatal

theorem append (quiet : ∀ x ∈ steps, ¬Fatally fails x) (h : Surfaces fails steps' result) :
    Surfaces fails (steps ++ steps') result := by
  cases h with
  | calm quiet' mild =>
    exact .calm (fun x hx => (List.mem_append.mp hx).elim (quiet x) (quiet' x)) mild
  | fatal quiet' failed isFatal =>
    rw [← List.append_assoc]
    exact .fatal (fun x hx => (List.mem_append.mp hx).elim (quiet x) (quiet' x)) failed isFatal

/-- Steps without a fatal fault may come before, in the log that a computation goes on with. -/
theorem after {log log' log'' : List ι} (first : log' = log ++ steps) (quiet : ∀ x ∈ steps, ¬Fatally fails x)
    (rest : ∃ steps', log'' = log' ++ steps' ∧ Surfaces fails steps' result) :
    ∃ steps, log'' = log ++ steps ∧ Surfaces fails steps result := by
  obtain ⟨steps', second, surfaces⟩ := rest
  refine ⟨steps ++ steps', ?_, surfaces.append quiet⟩
  rw [second, first, List.append_assoc]

theorem cons {x : ι} (quiet : ¬Fatally fails x) (h : Surfaces fails steps result) :
    Surfaces fails (x :: steps) result := by
  have head : ∀ y ∈ [x], ¬Fatally fails y := fun y hy => by
    rw [List.mem_singleton.mp hy]
    exact quiet
  exact append head h

theorem single {x : ι} (failed : fails x fault) (isFatal : fault.isFatal) :
    Surfaces fails [x] (.error fault : Except Fault α) :=
  .fatal (fun _ => (absurd · List.not_mem_nil)) failed isFatal

/-- Either the first step ends the computation, or the others are as if it had not been there. -/
theorem cons_inv {x : ι} (h : Surfaces fails (x :: steps) result) :
    (¬Fatally fails x ∧ Surfaces fails steps result) ∨
      ∃ fault, fault.isFatal ∧ fails x fault ∧ steps = [] ∧ result = .error fault := by
  generalize all : x :: steps = items at h
  cases h with
  | calm quiet mild =>
    subst all
    exact .inl ⟨quiet x (by simp), .calm (fun y hy => quiet y (by simp [hy])) mild⟩
  | @fatal before y fault quiet failed isFatal =>
    cases before with
    | nil =>
      obtain ⟨rfl, rfl⟩ := List.cons.inj all
      exact .inr ⟨fault, isFatal, failed, rfl, rfl⟩
    | cons z before =>
      obtain ⟨rfl, rfl⟩ := List.cons.inj all
      exact .inl ⟨quiet x (by simp), .fatal (fun y hy => quiet y (by simp [hy])) failed isFatal⟩

end Surfaces

/-- The plane answered a request with a fault. -/
def Exchange.Fails (x : Exchange) (fault : Fault) : Prop := x.answer = .error fault

/-- Every run of the computation surfaces fatal faults, where `log` gives the requests so far. -/
def Surfacing {τ α : Type} (log : τ → List Exchange) (act : ExceptT Fault (StateM τ) α) : Prop :=
  ∀ s, ∃ calls, log (act.run.run s).2 = log s ++ calls ∧ Surfaces Exchange.Fails calls (act.run.run s).1

namespace Surfacing

variable {τ α β : Type} {log : τ → List Exchange}

theorem of_log_eq {act : ExceptT Fault (StateM τ) α}
    (h : ∀ s, log (act.run.run s).2 = log s ∧ ∃ a, (act.run.run s).1 = .ok a) : Surfacing log act := by
  intro s
  obtain ⟨same, a, ok⟩ := h s
  refine ⟨[], by rw [same, List.append_nil], ?_⟩
  rw [ok]
  exact .calm (by simp) nofun

theorem pure (a : α) : Surfacing log (pure a : ExceptT Fault (StateM τ) α) :=
  of_log_eq fun _ => ⟨rfl, a, rfl⟩

theorem get : Surfacing log (get : ExceptT Fault (StateM τ) τ) := of_log_eq fun s => ⟨rfl, s, rfl⟩

theorem modify {f : τ → τ} (h : ∀ s, log (f s) = log s) :
    Surfacing log (modify f : ExceptT Fault (StateM τ) PUnit) := of_log_eq fun s => ⟨h s, ⟨⟩, rfl⟩

theorem throw {fault : Fault} (mild : ¬fault.isFatal) :
    Surfacing log (throw fault : ExceptT Fault (StateM τ) α) := by
  intro s
  exact ⟨[], (List.append_nil _).symm, .calm (by simp) (Surfaces.mild_of_not mild)⟩

theorem ite {c : Prop} [Decidable c] {act act' : ExceptT Fault (StateM τ) α} (h : Surfacing log act)
    (h' : Surfacing log act') : Surfacing log (if c then act else act') := by
  split
  · exact h
  · exact h'

theorem bind {act : ExceptT Fault (StateM τ) α} {f : α → ExceptT Fault (StateM τ) β}
    (h : Surfacing log act) (hf : ∀ a, Surfacing log (f a)) : Surfacing log (act >>= f) := by
  intro s
  obtain ⟨calls, asked, surfaces⟩ := h s
  rw [run_bind]
  rcases run : act.run.run s with ⟨fault | a, t⟩ <;> rw [run] at asked surfaces
  · refine ⟨calls, asked, ?_⟩
    by_cases isFatal : fault.isFatal
    · exact surfaces.of_fatal isFatal
    · have mild := Surfaces.mild_of_not (α := α) isFatal
      exact .calm (surfaces.quiet mild) (Surfaces.mild_of_not isFatal)
  · exact Surfaces.after asked (surfaces.quiet nofun) (hf a t)

/-- What follows an attempt may treat any failure as it likes, as long as it passes on a fatal one
without another request. -/
theorem attempt_bind {act : ExceptT Fault (StateM τ) α}
    {f : Except Fault α → ExceptT Fault (StateM τ) β} (h : Surfacing log act)
    (ok : ∀ a, Surfacing log (f (.ok a)))
    (mild : ∀ fault : Fault, ¬fault.isFatal → Surfacing log (f (.error fault)))
    (fatal : ∀ fault : Fault, fault.isFatal → f (.error fault) = MonadExcept.throw fault) :
    Surfacing log (attempt act >>= f) := by
  intro s
  obtain ⟨calls, asked, surfaces⟩ := h s
  rw [run_bind, run_attempt]
  dsimp only
  rcases run : act.run.run s with ⟨fault | a, t⟩ <;> rw [run] at asked surfaces
  · by_cases isFatal : fault.isFatal
    · dsimp only
      rw [fatal fault isFatal]
      exact ⟨calls, asked, surfaces.of_fatal isFatal⟩
    · have quiet := surfaces.quiet (Surfaces.mild_of_not isFatal)
      exact Surfaces.after asked quiet (mild fault isFatal t)
  · exact Surfaces.after asked (surfaces.quiet nofun) (ok a t)

theorem onFault {act : PlaneM τ α} {change : τ → τ} (h : Surfacing log act)
    (unseen : ∀ s, log (change s) = log s) : Surfacing log (onFault act change) := by
  intro s
  obtain ⟨calls, asked, surfaces⟩ := h s
  obtain ⟨result, same⟩ := onFault_unseen unseen act s
  exact ⟨calls, same.trans asked, result ▸ surfaces⟩

theorem foldlM {f : β → α → ExceptT Fault (StateM τ) β} (h : ∀ b a, Surfacing log (f b a)) (l : List α)
    (b : β) : Surfacing log (l.foldlM f b) := by
  induction l generalizing b with
  | nil => exact pure b
  | cons a l ih =>
    rw [List.foldlM_cons]
    exact bind (h b a) ih

end Surfacing

/-! ### Computations against a recorded plane -/

namespace Plane

variable {σ α β : Type} (plane : Plane σ)

theorem surfacing_call (r : Request) : Surfacing Recorded.exchanges (plane.recorded.call r) := by
  intro s
  obtain ⟨answer, t, run, asked⟩ := Recorded.call_cases plane r s
  rw [run]
  refine ⟨_, asked, ?_⟩
  by_cases h : Fatally Exchange.Fails ⟨r, answer⟩
  · obtain ⟨fault, isFatal, answered⟩ := h
    cases (show answer = .error fault from answered)
    exact .single rfl isFatal
  · refine .calm (by simpa using h) ?_
    rintro fault rfl isFatal
    exact h ⟨fault, isFatal, rfl⟩

theorem surfacing_traverse [Inhabited α] {bridge : Bridge} {source : Source} {isEnd : α → Bool}
    (ending : isEnd default = true) {items : List α} {act : β → α → PlaneM (Recorded σ) β}
    (hact : ∀ b a, Surfacing Recorded.exchanges (act b a)) (acc : β) :
    Surfacing Recorded.exchanges (plane.recorded.traverse bridge source isEnd items act acc) := by
  have poll (n : Nat) : Surfacing Recorded.exchanges
      (modify (plane.recorded.polled source n) : PlaneM (Recorded σ) PUnit) :=
    .modify (Recorded.polled_exchanges plane source n)
  refine plane.recorded.traverse_induction (motive := fun _ _ act => Surfacing _ act) ending ?_ ?_ acc
  · exact fun acc polls => Surfacing.get.bind fun s => (poll (polls s)).bind fun _ => .pure acc
  · exact fun acc item rest polls dropped next hnext =>
      Surfacing.get.bind fun s => (poll (polls s)).bind fun _ =>
        ((hact acc item).onFault fun t => Recorded.polled_exchanges plane source (dropped s t) t).bind (hnext s)

theorem surfacing_batchStep {change : PlaneM (Recorded σ) Unit}
    (h : Surfacing Recorded.exchanges change) (k : Key) (r : Report) :
    Surfacing Recorded.exchanges (batchStep change k r) := by
  refine h.attempt_bind (fun _ => .pure _) (fun fault mild => ?_) fun fault isFatal => ?_
  · dsimp only
    rw [if_neg mild]
    exact .pure _
  · dsimp only
    rw [if_pos isFatal]

theorem surfacing_bindAll (bindings : List (Key × Interface)) :
    Surfacing Recorded.exchanges (plane.recorded.bindAll bindings) :=
  .foldlM (fun r (k, _) => surfacing_batchStep (plane.surfacing_call _) k r) bindings {}

theorem surfacing_clearAll (bridge : Bridge) :
    Surfacing Recorded.exchanges (plane.recorded.clearAll bridge) :=
  (plane.surfacing_call .keys).bind fun _ => plane.surfacing_traverse rfl
    (fun r k => surfacing_batchStep (plane.surfacing_call (.delete k)) k r) {}

theorem surfacing_surveyKey (seen : List (Key × Entry)) (k : Key) :
    Surfacing Recorded.exchanges (plane.recorded.surveyKey seen k) := by
  refine (plane.surfacing_call (.lookup k)).attempt_bind (fun e? => ?_) (fun fault mild => ?_)
    fun fault isFatal => ?_
  · cases e? with
    | none => exact .pure seen
    | some e => exact (plane.surfacing_call _).bind fun _ => .pure _
  · dsimp only
    rw [if_neg mild]
    exact .pure seen
  · dsimp only
    rw [if_pos isFatal]

theorem surfacing_survey (bridge : Bridge) :
    Surfacing Recorded.exchanges (plane.recorded.survey bridge) :=
  (plane.surfacing_call .keys).bind fun _ => plane.surfacing_traverse rfl plane.surfacing_surveyKey []

end Plane

end MacAgent
