import MacAgent.Proofs.Loop.Journal

/-! # Running, draining, and going from one to the other

A loop whose queue is closed makes the deliveries of a drain. A loop whose queue is open waits where a
drain would end. It can be given up there, or anywhere between two deliveries, and be drained instead:
no event is lost or delivered again, and all comes out as in one drain. -/

namespace MacAgent

namespace Loop

variable {τ : Type} {host : Host τ} {l : Loop} {s : τ}

theorem run_open (host : Host τ) (bound : Nat) (l : Loop) (s : τ) :
    run host true bound l s = drain host bound l s := by
  rw [run_eq_drain]
  cases stop : (drain host bound l s).stop with
  | down | idle | closed | fatal | bound => exact congrArg (Progress.mk · _ _ _) stop.symm

/-- A drain that did not fail can be gone on with from where it stopped. -/
theorem drain_resume {bound : Nat} {p : Progress τ} (stopped : drain host bound l s = p)
    (ok : p.stop.result = .ok ()) (further : Nat) :
    drain host (p.delivered + further) l s = (drain host further p.loop p.host).more p.delivered := by
  -- Where nothing was delivered, all is left.
  have nothing {stop : Stop} {l : Loop} {s : τ} : drain host (0 + further) l s =
      (drain host further l s).more (Progress.mk stop 0 l s).delivered :=
    congrArg (drain host · l s) (Nat.zero_add further)
  induction bound, l, s using drain_induction host generalizing p with
  | down bound l s down =>
    obtain rfl := (drain_of_down down).symm.trans stopped
    exact nothing
  | idle bound l s up empty =>
    obtain rfl := (drain_of_empty up empty).symm.trans stopped
    exact nothing
  | cut l s e rest up waits =>
    obtain rfl := (drain_zero up waits).symm.trans stopped
    exact nothing
  | fatal bound l s e rest fault up waits _ _ run =>
    obtain rfl := (drain_of_dispatch_error up waits run).symm.trans stopped
    cases ok
  | delivered bound l s e rest up waits _ run ih =>
    obtain rfl := (drain_of_dispatch_ok up waits run).symm.trans stopped
    show drain host ((drain host bound _ _).delivered + 1 + further) l s = _
    rw [Nat.add_right_comm, drain_of_dispatch_ok up waits run, ih rfl ok]
    rfl

/-- Draining comes to its end at `p`, given enough deliveries. -/
def DrainsTo (host : Host τ) (l : Loop) (s : τ) (p : Progress τ) : Prop :=
  ∃ bound, drain host bound l s = p ∧ p.stop ≠ .bound

/-- Draining goes on from where it was stopped to the end that it would have come to, if there is one. -/
theorem drainsTo_iff_resumed {bound : Nat} {p : Progress τ} (stopped : drain host bound l s = p)
    (ok : p.stop.result = .ok ()) (last : Progress τ) :
    DrainsTo host l s last ↔ ∃ rest, DrainsTo host p.loop p.host rest ∧ last = rest.more p.delivered := by
  constructor
  · rintro ⟨enough, rfl, ended⟩
    have same := drain_add ended p.delivered
    rw [Nat.add_comm, drain_resume stopped ok] at same
    rw [← same] at ended ⊢
    exact ⟨_, ⟨enough, rfl, ended⟩, rfl⟩
  · rintro ⟨rest, ⟨enough, rfl, ended⟩, rfl⟩
    exact ⟨p.delivered + enough, drain_resume stopped ok enough, ended⟩

structure RunsAsDrained (host : Host τ) (l : Loop) (s : τ) : Prop where
  /-- On a closed queue, both make the same deliveries, with the same result. -/
  closed : ∀ bound,
    let p := run host false bound l s
    let q := drain host bound l s
    p.loop = q.loop ∧ p.host = q.host ∧ p.delivered = q.delivered ∧ p.stop.result = q.stop.result ∧
      (p.stop = .bound ↔ q.stop = .bound)
  /-- On an open queue, a run may be given up after any number of deliveries. -/
  resumed : ∀ bound,
    let p := run host true bound l s
    p.stop.result = .ok () → ∀ last,
      DrainsTo host l s last ↔ ∃ rest, DrainsTo host p.loop p.host rest ∧ last = rest.more p.delivered
  /-- A run that fails before that has come to the end of the drain. -/
  failed : ∀ bound fault, (run host true bound l s).stop = .fatal fault →
    DrainsTo host l s (run host true bound l s)

theorem runsAsDrained (host : Host τ) (l : Loop) (s : τ) : RunsAsDrained host l s where
  closed bound := by
    rw [run_eq_drain]
    generalize drain host bound l s = q
    cases stop : q.stop with
    | down | idle | closed | fatal | bound => simp [Stop.result, stop]
  resumed bound := drainsTo_iff_resumed (run_open host bound l s).symm
  failed bound fault failed := by
    rw [run_open] at failed ⊢
    exact ⟨bound, rfl, failed ▸ nofun⟩

/-- Running and draining agree on the state of the host, on the counters and on the result; and they agree
on the events delivered and their order, which the log of a host tells. -/
theorem run_and_drain_agree (host : Host τ) (l : Loop) (s : Logged τ) :
    RunsAsDrained host l s.state ∧ RunsAsDrained host.logged l s :=
  ⟨runsAsDrained host l s.state, runsAsDrained host.logged l s⟩

end Loop

end MacAgent
