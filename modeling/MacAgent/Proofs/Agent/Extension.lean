import MacAgent.Agent.Host
import MacAgent.Proofs.Agent.Handle

/-! # Planes that keep more

A plane may keep something of its own beside the state of another plane, such as a count, and answer as
that plane does. An agent cannot tell the two apart: seen without what is kept, each run against the one
is the run against the other. -/

namespace MacAgent

section Computation

variable {σ τ α β : Type}

/-- Every run of `act`, seen through `f`, is the run of `act'`. -/
def Projects (f : τ → σ) (act : ExceptT Fault (StateM τ) α) (act' : ExceptT Fault (StateM σ) α) : Prop :=
  ∀ t, act'.run.run (f t) = ((act.run.run t).1, f (act.run.run t).2)

namespace Projects

variable {f : τ → σ} {act other : ExceptT Fault (StateM τ) α} {act' other' : ExceptT Fault (StateM σ) α}

theorem pure (a : α) : Projects f (pure a) (pure a) := fun _ => rfl

theorem throw (fault : Fault) :
    Projects f (throw fault : ExceptT Fault (StateM τ) α) (throw fault) := fun _ => rfl

theorem attempt (h : Projects f act act') : Projects f (attempt act) (attempt act') := by
  intro t
  rw [run_attempt, run_attempt, h t]

theorem bind {k : α → ExceptT Fault (StateM τ) β} {k' : α → ExceptT Fault (StateM σ) β}
    (h : Projects f act act') (hk : ∀ a, Projects f (k a) (k' a)) : Projects f (act >>= k) (act' >>= k') := by
  intro t
  have first := h t
  rw [run_bind, run_bind, first]
  rcases act.run.run t with ⟨_ | a, u⟩
  · rfl
  · exact hk a u

theorem onFault {plain : PlaneM τ α} {plain' : PlaneM σ α} {change : τ → τ} {change' : σ → σ}
    (h : Projects f plain plain') (hc : ∀ t, change' (f t) = f (change t)) :
    Projects f (onFault plain change) (onFault plain' change') := by
  intro t
  have first := h t
  rcases run : plain.run.run t with ⟨fault | a, u⟩ <;> rw [run] at first
  · rw [run_onFault_error run, run_onFault_error first, hc]
  · rw [run_onFault_ok run, run_onFault_ok first]

theorem ite {c : Prop} [Decidable c] (h : Projects f act act') (ho : Projects f other other') :
    Projects f (if c then act else other) (if c then act' else other') := by
  split
  · exact h
  · exact ho

theorem foldlM {k : β → α → ExceptT Fault (StateM τ) β} {k' : β → α → ExceptT Fault (StateM σ) β}
    (h : ∀ b a, Projects f (k b a) (k' b a)) (l : List α) (b : β) :
    Projects f (l.foldlM k b) (l.foldlM k' b) := by
  induction l generalizing b with
  | nil => exact pure b
  | cons a l ih =>
    rw [List.foldlM_cons, List.foldlM_cons]
    exact bind (h b a) ih

theorem batchStep {change : PlaneM τ Unit} {change' : PlaneM σ Unit} (h : Projects f change change') (k : Key)
    (r : Report) : Projects f (batchStep change k r) (batchStep change' k r) := by
  refine h.attempt.bind fun result => ?_
  cases result with
  | ok _ => exact .pure _
  | error fault => exact .ite (.throw fault) (.pure _)

end Projects

namespace Feed

variable {plane : Plane σ} {source : Source} {act : β → α → PlaneM σ β} {bound : Nat} {feed rest : Feed α} {acc : β}
  {item : α} {s : σ}

theorem run_visit_end (ended : feed.next (plane.lead s) = (none, rest)) :
    (feed.visit plane source act (bound + 1) acc).run.run s =
      (.ok acc, plane.polled source (rest.polls - feed.polls) s) := by
  unfold visit
  refine (run_bind_ok (a := s) rfl).trans ?_
  rw [ended]
  rfl

theorem run_visit_item (given : feed.next (plane.lead s) = (some item, rest)) :
    (feed.visit plane source act (bound + 1) acc).run.run s =
      (onFault (act acc item) (rest.abandon plane source) >>= rest.visit plane source act bound).run.run
        (plane.polled source (rest.polls - feed.polls) s) := by
  unfold visit
  refine (run_bind_ok (a := s) rfl).trans ?_
  rw [given]
  rfl

end Feed

/-- Seen through `f`, `outer` is `inner`. -/
structure Plane.Extends (outer : Plane τ) (f : τ → σ) (inner : Plane σ) : Prop where
  answer : ∀ r t, inner.answer r (f t) = ((outer.answer r t).1, f (outer.answer r t).2)
  polled : ∀ source n t, inner.polled source n (f t) = f (outer.polled source n t)
  lead : ∀ t, inner.lead (f t) = outer.lead t

namespace Plane.Extends

variable {outer : Plane τ} {f : τ → σ} {inner : Plane σ}

theorem call (h : outer.Extends f inner) (r : Request) : Projects f (outer.call r) (inner.call r) := h.answer r

theorem abandon (h : outer.Extends f inner) (source : Source) (feed : Feed α) (t : τ) :
    feed.abandon inner source (f t) = f (feed.abandon outer source t) := by
  unfold Feed.abandon
  rw [h.lead, h.polled]

theorem visit (h : outer.Extends f inner) {source : Source} {act : β → α → PlaneM τ β}
    {act' : β → α → PlaneM σ β} (hact : ∀ b a, Projects f (act b a) (act' b a)) (bound : Nat) (feed : Feed α)
    (acc : β) :
    Projects f (feed.visit outer source act bound acc) (feed.visit inner source act' bound acc) := by
  induction bound generalizing feed acc with
  | zero => exact .pure acc
  | succ bound ih =>
    intro t
    rcases next : feed.next (outer.lead t) with ⟨item?, rest⟩
    have next' := next
    rw [← h.lead] at next'
    cases item? with
    | none =>
      rw [Feed.run_visit_end next, Feed.run_visit_end next', h.polled]
    | some item =>
      rw [Feed.run_visit_item next, Feed.run_visit_item next', h.polled]
      exact ((hact acc item).onFault (h.abandon source rest)).bind (ih rest) _

theorem traverse [Inhabited α] (h : outer.Extends f inner) {bridge : Bridge} {source : Source}
    {isEnd : α → Bool} {items : List α} {act : β → α → PlaneM τ β} {act' : β → α → PlaneM σ β}
    (hact : ∀ b a, Projects f (act b a) (act' b a)) (acc : β) :
    Projects f (outer.traverse bridge source isEnd items act acc)
      (inner.traverse bridge source isEnd items act' acc) :=
  h.visit hact _ _ acc

theorem surveyKey (h : outer.Extends f inner) (seen : List (Key × Entry)) (k : Key) :
    Projects f (outer.surveyKey seen k) (inner.surveyKey seen k) := by
  refine (h.call (.lookup k)).attempt.bind fun result => ?_
  match result with
  | .ok (some e) => exact (h.call (.publish e.key.render e.render)).bind fun _ => .pure _
  | .ok none => exact .pure seen
  | .error fault => exact .ite (.throw fault) (.pure seen)

end Plane.Extends

end Computation

/-- The same agent, with another view of its plane. -/
def AgentState.map {σ τ : Type} (f : τ → σ) (s : AgentState τ) : AgentState σ where
  agent := s.agent
  plane := f s.plane

namespace Agent

variable {σ τ α : Type} {outer : Plane τ} {f : τ → σ} {inner : Plane σ}

theorem projects_onPlane {act : PlaneM τ α} {act' : PlaneM σ α} (h : Projects f act act') :
    Projects (AgentState.map f) (onPlane act) (onPlane act') := fun s => run_onPlane (h s.plane)

theorem projects_getAgent : Projects (AgentState.map f) getAgent getAgent := fun _ => rfl

theorem projects_perform (h : outer.Extends f inner) (key value : String) :
    Projects (AgentState.map f) (perform outer key value) (perform inner key value) := by
  have call (r : Request) := projects_onPlane (h.call r)
  unfold perform
  cases Topic.ofKey? key with
  | none => exact .pure ()
  | some topic =>
    cases topic with
    | name =>
      refine .ite (.bind (fun _ => rfl) fun _ => call (.publish _ _)) (.bind (fun _ => rfl) fun _ => ?_)
      exact call (.publish _ _)
    | survey =>
      refine projects_getAgent.bind fun a => .bind (projects_onPlane ?_) fun _ => fun _ => rfl
      exact (h.call .keys).bind fun _ => h.traverse h.surveyKey []
    | install =>
      refine .bind (projects_onPlane ?_) fun _ => call (.publish _ _)
      have step (r : Report) (b : Key × Interface) :
          Projects f (batchStep (outer.bind b.1 b.2) b.1 r) (batchStep (inner.bind b.1 b.2) b.1 r) :=
        (h.call (.install (.unicast b.1 b.2))).batchStep b.1 r
      exact .foldlM step exampleBindings {}
    | clear =>
      refine projects_getAgent.bind fun a => .bind (projects_onPlane ?_) fun _ => call (.publish _ _)
      exact (h.call .keys).bind fun _ => h.traverse (fun r k => (h.call (.delete k)).batchStep k r) {}

theorem projects_reviewOptions (h : outer.Extends f inner) :
    Projects (AgentState.map f) (reviewOptions outer) (reviewOptions inner) := by
  refine (projects_onPlane (h.call .optionValues)).bind fun values => ?_
  refine projects_getAgent.bind fun a => ?_
  exact projects_onPlane (h.traverse (fun _ _ => .pure ()) ())

theorem projects_handleOption (h : outer.Extends f inner) (key value : String) :
    Projects (AgentState.map f) (handleOption outer key value) (handleOption inner key value) := by
  refine (projects_perform h key value).attempt.bind fun result => ?_
  cases result with
  | ok _ => exact projects_reviewOptions h
  | error fault =>
    exact .ite (.throw fault) ((projects_reviewOptions h).bind fun _ => .throw fault)

theorem projects_handle (h : outer.Extends f inner) (e : Event) :
    Projects (AgentState.map f) (handle outer e) (handle inner e) := by
  have call (r : Request) := projects_onPlane (h.call r)
  have update (g : Agent → Agent) : Projects (AgentState.map f) (updateAgent g) (updateAgent g) := fun _ => rfl
  refine projects_getAgent.bind fun a => ?_
  cases e with
  | initialized =>
    refine .ite ((update _).bind fun _ => (call (.option Topic.name.key)).bind fun _ => ?_) (.pure ())
    exact .ite (call (.publish _ _)) (projects_handleOption h _ _)
  | enabled on =>
    refine .ite ((call (.publish _ _)).bind fun _ => ?_) (.pure ())
    exact (call (.acknowledge true)).bind fun _ => update _
  | option key value => exact .ite (projects_handleOption h key value) (.pure ())
  | entrySet entry => exact update _
  | entryDeleted key => exact update _

end Agent

end MacAgent
