import MacAgent.Loop.Basic
import MacAgent.Proofs.Plane.Surfacing

/-! # The deliveries of a loop

What a loop has done comes down to the list of its deliveries, which says what is left in the queue and in
the counters. Where a host surfaces the fatal faults of its own steps at each delivery, they surface at the
end of all deliveries. -/

namespace MacAgent

/-- An event that was delivered, and what came of it. -/
structure Delivery (τ : Type) where
  event : Event
  reaction : Reaction τ

namespace Delivery

variable {τ : Type}

def Fails (d : Delivery τ) (fault : Fault) : Prop := d.reaction.result = .error fault

/-- Whether a delivery failed without being fatal. -/
def isSetback (d : Delivery τ) : Bool :=
  match d.reaction.result with
  | .ok () => false
  | .error fault => !fault.isFatal

end Delivery

/-- The result of a loop: only a fatal fault is a failure. -/
def Stop.result : Stop → Except Fault Unit
  | fatal fault => .error fault
  | down | idle | closed | bound => .ok ()

namespace Loop

variable {τ : Type} {host : Host τ} {l l' : Loop} {s s' : τ} {ds : List (Delivery τ)}

/-- The loop after a delivery. -/
def after (l : Loop) (d : Delivery τ) : Loop where
  pending := l.pending ++ d.reaction.raised
  dispatched := l.dispatched + 1
  failed := l.failed + if d.isSetback then 1 else 0

theorem dispatch_cases (host : Host τ) (e : Event) (s : τ) (l : Loop) :
    (¬Fatally Delivery.Fails ⟨e, host.react e s⟩ ∧
      dispatch host e s l = (.ok (), (host.react e s).next, l.after ⟨e, host.react e s⟩)) ∨
    ∃ fault : Fault, fault.isFatal ∧ Delivery.Fails ⟨e, host.react e s⟩ fault ∧
      dispatch host e s l = (.error fault, (host.react e s).next, l.after ⟨e, host.react e s⟩) := by
  unfold dispatch after Delivery.isSetback Fatally Delivery.Fails
  dsimp only
  cases (host.react e s).result with
  | ok _ => exact .inl ⟨by rintro ⟨fault, -, ⟨⟩⟩, rfl⟩
  | error fault =>
    cases isFatal : fault.isFatal with
    | true =>
      refine .inr ⟨fault, isFatal, rfl, ?_⟩
      simp [isFatal, send]
    | false =>
      refine .inl ⟨?_, ?_⟩
      · rintro ⟨fault', isFatal', ⟨rfl⟩⟩
        exact absurd isFatal' (by simp [isFatal])
      · simp [isFatal, send]

theorem dispatch_snd (host : Host τ) (e : Event) (s : τ) (l : Loop) :
    (dispatch host e s l).2 = ((host.react e s).next, l.after ⟨e, host.react e s⟩) := by
  rcases dispatch_cases host e s l with ⟨-, run⟩ | ⟨_, -, -, run⟩
  · rw [run]
  · rw [run]

/-- The host takes these deliveries one after another, each of the event that waits longest. -/
inductive Serves (host : Host τ) : Loop → τ → List (Delivery τ) → Loop → τ → Prop where
  | nil (l : Loop) (s : τ) : Serves host l s [] l s
  | cons {l l' : Loop} {s s' : τ} {e : Event} {rest : List Event} {ds : List (Delivery τ)} :
      host.isDown s = false → l.pending = e :: rest →
      Serves host ({ l with pending := rest }.after ⟨e, host.react e s⟩) (host.react e s).next ds l' s' →
      Serves host l s (⟨e, host.react e s⟩ :: ds) l' s'

namespace Serves

/-- Events leave the queue at its front, and enter at its end. -/
theorem pending_eq (h : Serves host l s ds l' s') :
    l.pending ++ ds.flatMap (·.reaction.raised) = ds.map (·.event) ++ l'.pending := by
  induction h with
  | nil l s => exact List.append_nil _
  | cons _ waits _ ih =>
    rw [List.flatMap_cons, List.map_cons, List.cons_append, ← ih, waits, ← List.append_assoc]
    rfl

theorem dispatched_eq (h : Serves host l s ds l' s') : l'.dispatched = l.dispatched + ds.length := by
  induction h with
  | nil l s => rfl
  | cons _ _ _ ih =>
    rw [ih, List.length_cons]
    exact Nat.add_right_comm _ 1 _

theorem failed_eq (h : Serves host l s ds l' s') : l'.failed = l.failed + ds.countP (·.isSetback) := by
  induction h with
  | nil l s => rfl
  | cons _ _ _ ih =>
    rw [ih, List.countP_cons, Nat.add_comm (List.countP _ _), ← Nat.add_assoc]
    rfl

/-- Where the host surfaces fatal faults of its own steps at each delivery, the loop surfaces them at
the end of all deliveries. -/
theorem surfaces {ι : Type} {fails : ι → Fault → Prop} {log : τ → List ι} {result : Except Fault Unit}
    (react : ∀ e s, ∃ steps, log (host.react e s).next = log s ++ steps ∧
      Surfaces fails steps (host.react e s).result)
    (h : Serves host l s ds l' s') (ends : Surfaces Delivery.Fails ds result) :
    ∃ steps, log s' = log s ++ steps ∧ Surfaces fails steps result := by
  induction h with
  | nil l s =>
    refine ⟨[], (List.append_nil _).symm, ?_⟩
    generalize none : ([] : List (Delivery τ)) = ds at ends
    cases ends with
    | calm _ mild => exact .calm (by simp) mild
    | fatal _ _ _ => simp at none
  | @cons l l' s s' e rest ds _ _ tail ih =>
    obtain ⟨steps, logged, surfaces⟩ := react e s
    rcases ends.cons_inv with ⟨quiet, ends⟩ | ⟨fault, isFatal, failed, rfl, rfl⟩
    · have quiet := surfaces.quiet fun fault failed isFatal => quiet ⟨fault, isFatal, failed⟩
      exact Surfaces.after logged quiet (ih ends)
    · cases tail with
      | nil =>
        rw [show (host.react e s).result = .error fault from failed] at surfaces
        exact ⟨steps, logged, surfaces⟩

/-- Deliveries whose own steps are all free of fatal faults are free of them too. -/
theorem quiet_of_steps {ι : Type} {fails : ι → Fault → Prop} {log : τ → List ι}
    (react : ∀ e s, ∃ steps, log (host.react e s).next = log s ++ steps ∧
      Surfaces fails steps (host.react e s).result)
    (h : Serves host l s ds l' s') :
    ∃ steps, log s' = log s ++ steps ∧
      ((∀ x ∈ steps, ¬Fatally fails x) → ∀ d ∈ ds, ¬Fatally Delivery.Fails d) := by
  induction h with
  | nil l s => exact ⟨[], (List.append_nil _).symm, fun _ => nofun⟩
  | @cons l l' s s' e rest ds _ _ tail ih =>
    obtain ⟨steps, logged, surfaces⟩ := react e s
    obtain ⟨steps', logged', quiet'⟩ := ih
    refine ⟨steps ++ steps', by rw [logged', logged, List.append_assoc], fun quiet => ?_⟩
    have mild := surfaces.mild fun x hx => quiet x (List.mem_append_left _ hx)
    refine List.forall_mem_cons.mpr ⟨?_, quiet' fun x hx => quiet x (List.mem_append_right _ hx)⟩
    rintro ⟨fault, isFatal, failed⟩
    exact mild fault failed isFatal

end Serves

/-! ### Running -/

/-- Running is draining, but for the reason to stop on an empty queue. -/
theorem run_eq_drain (host : Host τ) (isOpen : Bool) (bound : Nat) (l : Loop) (s : τ) :
    run host isOpen bound l s =
      { drain host bound l s with
        stop := match (drain host bound l s).stop with
          | .idle => if isOpen then .idle else .closed
          | stop => stop } := by
  induction bound generalizing l s with
  | zero =>
    unfold run drain
    split
    · rfl
    · split
      · rfl
      · rfl
  | succ bound ih =>
    unfold run drain
    split
    · rfl
    · split
      · rfl
      · dsimp only
        split
        · rfl
        · rw [ih]

end Loop

end MacAgent
