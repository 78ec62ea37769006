import MacAgent.Proofs.Loop.Journal

/-! # How a loop ends

A loop that ends tells why: its host is down, nothing waits, a delivery failed fatally, or it has made
all deliveries that it was allowed to make. The first delivery that fails fatally is the reason wherever
the loop may make enough deliveries to come to it. -/

namespace MacAgent

namespace Loop

variable {τ : Type} {host : Host τ} {bound : Nat} {l l' : Loop} {s s' : τ} {ds : List (Delivery τ)}
  {e : Event} {rest : List Event} {fault : Fault}

/-- How far a loop came, told by its deliveries. -/
structure Accounts (host : Host τ) (l : Loop) (s : τ) (ds : List (Delivery τ)) (p : Progress τ) :
    Prop where
  serves : Serves host l s ds p.loop p.host
  /-- All deliveries but the last are free of fatal faults, and a fatal fault of that one is the result. -/
  ends : Surfaces Delivery.Fails ds p.stop.result
  /-- Nothing is lost from the queue, and its order is kept. -/
  pending : l.pending ++ ds.flatMap (·.reaction.raised) = ds.map (·.event) ++ p.loop.pending
  dispatched : p.loop.dispatched = l.dispatched + ds.length
  /-- The delivery that ends a loop fatally is no setback. -/
  failed : p.loop.failed = l.failed + ds.countP (·.isSetback)
  /-- A loop that does not fail tells how many deliveries it made. -/
  delivered : p.stop.result = .ok () → p.delivered = ds.length

theorem Accounts.of_serves {p : Progress τ} (serves : Serves host l s ds p.loop p.host)
    (ends : Surfaces Delivery.Fails ds p.stop.result)
    (delivered : p.stop.result = .ok () → p.delivered = ds.length) : Accounts host l s ds p :=
  ⟨serves, ends, serves.pending_eq, serves.dispatched_eq, serves.failed_eq, delivered⟩

/-! ### Why it ends -/

theorem drain_accounts (host : Host τ) (bound : Nat) (l : Loop) (s : τ) :
    ∃ ds, Accounts host l s ds (drain host bound l s) ∧ Stopped host bound (drain host bound l s) := by
  -- The log of a drain tells its deliveries, and changes nothing.
  obtain ⟨ds, h⟩ := drain_logged host bound l { state := s, accepted := [], delivered := [] }
  have plain : drain host bound l s = _ := h.plain
  rw [plain]
  exact ⟨ds, .of_serves h.serves h.ends h.delivered, h.stopped⟩

/-- What is so where a run has stopped that was to make at most `bound` deliveries: the same as for a drain,
but that a queue which is closed ends it for good. -/
def Halted (host : Host τ) (isOpen : Bool) (bound : Nat) (p : Progress τ) : Prop :=
  match p.stop with
  | .closed => isOpen = false ∧ host.isDown p.host = false ∧ p.loop.pending = []
  | .idle => isOpen = true ∧ Stopped host bound p
  | .down | .fatal _ | .bound => Stopped host bound p

theorem run_accounts (host : Host τ) (isOpen : Bool) (bound : Nat) (l : Loop) (s : τ) :
    ∃ ds, Accounts host l s ds (run host isOpen bound l s) ∧
      Halted host isOpen bound (run host isOpen bound l s) := by
  obtain ⟨ds, h, stopped⟩ := drain_accounts host bound l s
  have ends := h.ends
  have delivered := h.delivered
  rw [run_eq_drain]
  unfold Stopped at stopped
  cases stop : (drain host bound l s).stop with
  | idle =>
    rw [stop] at ends delivered stopped
    cases isOpen with
    | true => exact ⟨ds, .of_serves h.serves ends delivered, rfl, stopped⟩
    | false => exact ⟨ds, .of_serves h.serves ends delivered, rfl, stopped⟩
  | closed =>
    rw [stop] at stopped
    exact stopped.elim
  | down | fatal fault | bound =>
    rw [stop] at ends delivered stopped
    exact ⟨ds, .of_serves h.serves ends delivered, stopped⟩

/-! ### The first fatal failure -/

/-- A drain makes its first deliveries, and goes on from there. -/
theorem drain_of_serves (h : Serves host l s ds l' s') (quiet : ∀ d ∈ ds, ¬Fatally Delivery.Fails d)
    (further : Nat) :
    drain host (ds.length + further) l s = (drain host further l' s').more ds.length := by
  induction h with
  | nil l s => exact congrArg (drain host · l s) (Nat.zero_add further)
  | @cons l l' s s' e rest ds up waits _ ih =>
    obtain ⟨first, quiet⟩ := List.forall_mem_cons.mp quiet
    rcases dispatch_cases host e s { l with pending := rest } with ⟨-, run⟩ | ⟨fault, isFatal, failed, -⟩
    · rw [List.length_cons, Nat.add_right_comm, drain_of_dispatch_ok up waits run, ih quiet]
      rfl
    · exact absurd ⟨fault, isFatal, failed⟩ first

/-- The end of a loop that has made the deliveries `ds` since `l` and then failed with the fault `fault`
at a reaction `r`, while the events `rest` waited. -/
def failedAt (l : Loop) (ds : List (Delivery τ)) (rest : List Event) (r : Reaction τ) (fault : Fault) :
    Progress τ where
  stop := .fatal fault
  delivered := ds.length
  loop :=
    { pending := rest ++ r.raised
      dispatched := l.dispatched + ds.length + 1
      failed := l.failed + ds.countP (·.isSetback) }
  host := r.next

theorem drain_of_first_fatal (h : Serves host l s ds l' s') (quiet : ∀ d ∈ ds, ¬Fatally Delivery.Fails d)
    (up : host.isDown s' = false) (waits : l'.pending = e :: rest)
    (failed : (host.react e s').result = .error fault) (isFatal : fault.isFatal = true)
    (enough : ds.length < bound) :
    drain host bound l s = failedAt l ds rest (host.react e s') fault := by
  obtain ⟨further, rfl⟩ := Nat.exists_eq_add_of_lt enough
  rw [Nat.add_assoc, drain_of_serves h quiet]
  have setback : Delivery.isSetback ⟨e, host.react e s'⟩ = false := by
    simp [Delivery.isSetback, failed, isFatal]
  rcases dispatch_cases host e s' { l' with pending := rest } with ⟨mild, -⟩ | ⟨fault', -, failed', run⟩
  · exact absurd ⟨fault, isFatal, failed⟩ mild
  · obtain rfl : fault' = fault := Except.error.inj (failed'.symm.trans failed)
    rw [drain_of_dispatch_error up waits run]
    simp [Progress.more, failedAt, after, setback, h.dispatched_eq, h.failed_eq]

theorem run_of_drain_fatal {isOpen : Bool} {r : Reaction τ}
    (h : drain host bound l s = failedAt l ds rest r fault) :
    run host isOpen bound l s = failedAt l ds rest r fault := by
  rw [run_eq_drain, h]
  rfl

end Loop

end MacAgent
