import MacAgent.Agent.Host
import MacAgent.Proofs.Agent.Frame
import MacAgent.Proofs.Loop.Ending
import MacAgent.Rig.Basic

/-! # An agent fails fast

Whatever an agent does about an event, a fatal fault of its plane ends it and is its result. So an
option is followed by the reading of all options unless a fatal fault came before. The loop around the
agent comes to the first fatal fault unless it stops before for a reason of its own, and then the fault
is its result and all other events are still in its queue. -/

namespace MacAgent

variable {σ : Type}

/-- What an agent has asked of its plane so far. -/
def AgentState.exchanges (s : AgentState (Recorded σ)) : List Exchange := s.plane.exchanges

namespace Surfacing

variable {α : Type}

theorem onPlane {act : PlaneM (Recorded σ) α} (h : Surfacing Recorded.exchanges act) :
    Surfacing AgentState.exchanges (onPlane act) := fun s => h s.plane

theorem updateAgent (f : Agent → Agent) :
    Surfacing AgentState.exchanges (updateAgent f : AgentM (Recorded σ) Unit) :=
  .modify fun _ => rfl

theorem getAgent : Surfacing AgentState.exchanges (getAgent : AgentM (Recorded σ) Agent) :=
  Surfacing.get.bind fun s => .pure s.agent

end Surfacing

namespace Agent

variable (plane : Plane σ)

theorem surfacing_publishGreeting (value : String) :
    Surfacing AgentState.exchanges (onPlane (plane.recorded.publishGreeting value)) :=
  .onPlane (plane.surfacing_call _)

theorem surfacing_perform (key value : String) :
    Surfacing AgentState.exchanges (perform plane.recorded key value) := by
  unfold perform
  cases Topic.ofKey? key with
  | none => exact .pure ()
  | some topic =>
    cases topic with
    | name =>
      exact .ite ((Surfacing.updateAgent _).bind fun _ => surfacing_publishGreeting plane _)
        ((Surfacing.updateAgent _).bind fun _ => surfacing_publishGreeting plane _)
    | survey =>
      refine Surfacing.getAgent.bind fun a => ?_
      exact (Surfacing.onPlane (plane.surfacing_survey _)).bind fun _ => .updateAgent _
    | install =>
      exact (Surfacing.onPlane (plane.surfacing_bindAll _)).bind fun _ => .onPlane (plane.surfacing_call _)
    | clear =>
      refine Surfacing.getAgent.bind fun a => ?_
      exact (Surfacing.onPlane (plane.surfacing_clearAll _)).bind fun _ => .onPlane (plane.surfacing_call _)

theorem surfacing_reviewOptions : Surfacing AgentState.exchanges (reviewOptions plane.recorded) :=
  (Surfacing.onPlane (plane.surfacing_call .optionValues)).bind fun _ => Surfacing.getAgent.bind fun _ =>
    .onPlane (plane.surfacing_traverse rfl (fun _ _ => .pure ()) ())

theorem surfacing_handleOption (key value : String) :
    Surfacing AgentState.exchanges (handleOption plane.recorded key value) := by
  refine (surfacing_perform plane key value).attempt_bind (fun _ => surfacing_reviewOptions plane)
    (fun fault mild => ?_) fun fault isFatal => ?_
  · dsimp only
    rw [if_neg mild]
    exact (surfacing_reviewOptions plane).bind fun _ => .throw mild
  · dsimp only
    rw [if_pos isFatal]

theorem surfacing_respond (e : Event) : Surfacing AgentState.exchanges (respond plane.recorded e) := by
  cases e with
  | initialized =>
    refine (Surfacing.updateAgent _).bind fun _ => ?_
    refine (Surfacing.onPlane (plane.surfacing_call (.option Topic.name.key))).bind fun _ => ?_
    exact .ite (surfacing_publishGreeting plane _) (surfacing_handleOption plane _ _)
  | enabled on =>
    refine .ite (.pure ()) ?_
    refine (surfacing_publishGreeting plane _).bind fun _ => ?_
    exact (Surfacing.onPlane (plane.surfacing_call _)).bind fun _ => .updateAgent _
  | option key value => exact surfacing_handleOption plane key value
  | entrySet entry => exact .updateAgent _
  | entryDeleted key => exact .updateAgent _

theorem surfacing_handle (e : Event) : Surfacing AgentState.exchanges (handle plane.recorded e) := by
  intro s
  by_cases down : s.agent.phase = .disabled
  · obtain ⟨n, run⟩ := handle_of_disabled plane.recorded down e
    rw [run]
    exact ⟨[], (List.append_nil _).symm, .calm (by simp) nofun⟩
  · rw [handle_of_working _ down]
    exact surfacing_respond plane e s

/-! ### Reading all options -/

/-- Nothing is asked for after the values of all options. -/
theorem reviewOptions_asks (s : AgentState (Recorded σ)) :
    ∃ answer, ((reviewOptions plane.recorded).run.run s).2.exchanges =
      s.exchanges ++ [⟨.optionValues, answer⟩] := by
  rcases run : plane.recorded.optionValues.run.run s.plane with ⟨answer, p⟩
  have asked : p.exchanges = s.plane.exchanges ++ [⟨.optionValues, answer⟩] := by
    obtain ⟨rfl, rfl⟩ := Prod.ext_iff.mp run
    rfl
  refine ⟨answer, ?_⟩
  unfold reviewOptions
  rw [run_bind, run_onPlane run]
  cases answer with
  | error fault => exact asked
  | ok values =>
    have silent : Keeps (Both Anyhow (Recorded.Asked fun _ => False)) (do
        onPlane (plane.recorded.traverse (← getAgent).config.bridge .options String.isEmpty values
          (fun _ _ => pure ()) ()) : AgentM (Recorded σ) Unit) :=
      Keeps.getAgent.bind fun a => .onPlane ((Recorded.heeds plane _).traverse rfl (fun _ _ => .pure ()) ())
    obtain ⟨-, calls, more, none⟩ := silent { s with plane := p }
    obtain rfl := List.eq_nil_iff_forall_not_mem.mpr none
    exact more.trans ((List.append_nil _).trans asked)

/-- An option that meets no fatal fault is followed by one request for all options, which is the last. -/
theorem handleOption_asks (key value : String) (s : AgentState (Recorded σ)) :
    ∃ calls, ((handleOption plane.recorded key value).run.run s).2.exchanges = s.exchanges ++ calls ∧
      ((∀ x ∈ calls, ¬Fatally Exchange.Fails x) → ∃ before answer,
        calls = before ++ [⟨.optionValues, answer⟩] ∧ ∀ x ∈ before, x.request ≠ .optionValues) := by
  have others : Keeps (Both Anyhow (Recorded.Asked (· ≠ .optionValues))) (perform plane.recorded key value) :=
    keeps_perform (Recorded.heeds plane _) (fun _ _ => nofun) nofun (fun _ => nofun) (fun _ => nofun)
      (fun _ => nofun) (fun _ _ => trivial) (fun _ _ => trivial) key value
  obtain ⟨-, before, asked, others⟩ := others s
  obtain ⟨before', asked', surfaces⟩ := surfacing_perform plane key value s
  obtain rfl : before' = before := List.append_cancel_left (asked'.symm.trans asked)
  unfold handleOption
  rw [run_bind, run_attempt]
  rcases run : (perform plane.recorded key value).run.run s with ⟨fault | _, t⟩ <;> rw [run] at asked surfaces
  · dsimp only
    by_cases isFatal : fault.isFatal
    · rw [if_pos isFatal]
      exact ⟨before', asked, fun quiet => absurd isFatal (surfaces.mild quiet fault rfl)⟩
    · rw [if_neg isFatal, run_bind]
      obtain ⟨answer, reviewed⟩ := reviewOptions_asks plane t
      refine ⟨before' ++ [⟨.optionValues, answer⟩], ?_, fun _ => ⟨before', answer, rfl, others⟩⟩
      rw [← List.append_assoc, ← show t.exchanges = s.exchanges ++ before' from asked, ← reviewed]
      rcases (reviewOptions plane.recorded).run.run t with ⟨_ | _, u⟩
      · rfl
      · rfl
  · obtain ⟨answer, reviewed⟩ := reviewOptions_asks plane t
    refine ⟨before' ++ [⟨.optionValues, answer⟩], ?_, fun _ => ⟨before', answer, rfl, others⟩⟩
    rw [← List.append_assoc, ← show t.exchanges = s.exchanges ++ before' from asked, ← reviewed]

/-! ### The agent and its loop -/

/-- The agent as the host of a loop, where `collect` reads the events that its plane has sent. -/
def recordedHost (plane : Plane σ) (collect : σ → List Event × σ) (isDown : σ → Bool) :
    Host (AgentState (Recorded σ)) :=
  host plane.recorded (fun t => ((collect t.plane).1, { t with plane := (collect t.plane).2 }))
    fun t => isDown t.plane

example : Rig.host = recordedHost Memory.plane.faulty
    (fun f => (f.plane.collect.1, { f with plane := f.plane.collect.2 })) (·.plane.board.isShutDown) := rfl

theorem recordedHost_react (collect : σ → List Event × σ) (isDown : σ → Bool) (e : Event)
    (s : AgentState (Recorded σ)) :
    ∃ calls, ((recordedHost plane collect isDown).react e s).next.exchanges = s.exchanges ++ calls ∧
      Surfaces Exchange.Fails calls ((recordedHost plane collect isDown).react e s).result :=
  surfacing_handle plane e s

variable {collect : σ → List Event × σ} {isDown : σ → Bool} {bound : Nat} {l l' : Loop}
  {s s' : AgentState (Recorded σ)} {ds : List (Delivery (AgentState (Recorded σ)))} {e : Event}
  {rest : List Event} {fault : Fault}

/-- How far a loop around an agent came, told by its deliveries and all that they asked of the plane. -/
structure AccountsFor (host : Host (AgentState (Recorded σ))) (l : Loop) (s : AgentState (Recorded σ))
    (ds : List (Delivery (AgentState (Recorded σ)))) (p : Progress (AgentState (Recorded σ))) : Prop extends
    Loop.Accounts host l s ds p where
  asks : ∃ calls, p.host.exchanges = s.exchanges ++ calls ∧ Surfaces Exchange.Fails calls p.stop.result

theorem accountsFor_of_accounts {p : Progress (AgentState (Recorded σ))}
    (h : Loop.Accounts (recordedHost plane collect isDown) l s ds p) :
    AccountsFor (recordedHost plane collect isDown) l s ds p :=
  ⟨h, h.serves.surfaces (recordedHost_react plane collect isDown) h.ends⟩

/-- Where the agent in a loop gets the first fatal answer of its plane: after the deliveries `ds`, when it is
told of the event `e`. -/
structure FirstFatal (host : Host (AgentState (Recorded σ))) (l : Loop) (s : AgentState (Recorded σ))
    (ds : List (Delivery (AgentState (Recorded σ)))) (l' : Loop) (s' : AgentState (Recorded σ)) (e : Event)
    (rest : List Event) (fault : Fault) : Prop where
  serves : Loop.Serves host l s ds l' s'
  before : ∃ calls, s'.exchanges = s.exchanges ++ calls ∧ ∀ x ∈ calls, ¬Fatally Exchange.Fails x
  up : host.isDown s' = false
  waits : l'.pending = e :: rest
  answered : ∃ calls, (host.react e s').next.exchanges = s'.exchanges ++ calls ∧ ∃ x ∈ calls, x.Fails fault
  isFatal : fault.isFatal = true

namespace FirstFatal

variable {plane} (h : FirstFatal (recordedHost plane collect isDown) l s ds l' s' e rest fault)

include h

theorem quiet : ∀ d ∈ ds, ¬Fatally Delivery.Fails d := by
  obtain ⟨calls, asked, quiet⟩ := h.before
  obtain ⟨calls', asked', quiet_of⟩ := h.serves.quiet_of_steps (recordedHost_react plane collect isDown)
  obtain rfl : calls' = calls := List.append_cancel_left (asked'.symm.trans asked)
  exact quiet_of quiet

theorem failed : ((recordedHost plane collect isDown).react e s').result = .error fault := by
  obtain ⟨calls, asked, x, member, failed⟩ := h.answered
  obtain ⟨calls', asked', surfaces⟩ := recordedHost_react plane collect isDown e s'
  obtain rfl : calls' = calls := List.append_cancel_left (asked'.symm.trans asked)
  exact surfaces.eq_error_of_mem member failed h.isFatal fun _ same =>
    Except.error.inj (same.symm.trans failed)

theorem drain_eq (enough : ds.length < bound) : l.drain (recordedHost plane collect isDown) bound s =
    l.failedAt ds rest ((recordedHost plane collect isDown).react e s') fault :=
  Loop.drain_of_first_fatal h.serves h.quiet h.up h.waits h.failed h.isFatal enough

end FirstFatal

/-- The agent stops at the first fatal fault of its plane, and so does a loop around it. -/
structure FailsFast (plane : Plane σ) : Prop where
  handle (e : Event) : Surfacing AgentState.exchanges (handle plane.recorded e)
  /-- All options are read once and last, unless a fatal fault came before. -/
  review (key value : String) (s : AgentState (Recorded σ)) : s.agent.phase ≠ .disabled →
    ∃ calls, ((Agent.handle plane.recorded (.option key value)).run.run s).2.exchanges = s.exchanges ++ calls ∧
      ((∀ x ∈ calls, ¬Fatally Exchange.Fails x) → ∃ before answer,
        calls = before ++ [⟨.optionValues, answer⟩] ∧ ∀ x ∈ before, x.request ≠ .optionValues)
  /-- A drain accounts for what it did, and for why it stopped. -/
  drain (collect : σ → List Event × σ) (isDown : σ → Bool) (bound : Nat) (l : Loop)
    (s : AgentState (Recorded σ)) :
    let host := recordedHost plane collect isDown
    ∃ ds, AccountsFor host l s ds (l.drain host bound s) ∧ Loop.Stopped host bound (l.drain host bound s)
  run (collect : σ → List Event × σ) (isDown : σ → Bool) (isOpen : Bool) (bound : Nat) (l : Loop)
    (s : AgentState (Recorded σ)) :
    let host := recordedHost plane collect isDown
    ∃ ds, AccountsFor host l s ds (l.run host isOpen bound s) ∧
      Loop.Halted host isOpen bound (l.run host isOpen bound s)
  /-- The first fatal answer is the result of every loop that may make enough deliveries to come to it. Its
  event counts as dispatched and not as a setback, and the events behind it still wait. -/
  first (collect : σ → List Event × σ) (isDown : σ → Bool) (l : Loop) (s : AgentState (Recorded σ))
    (ds : List (Delivery (AgentState (Recorded σ)))) (l' : Loop) (s' : AgentState (Recorded σ)) (e : Event)
    (rest : List Event) (fault : Fault) :
    let host := recordedHost plane collect isDown
    FirstFatal host l s ds l' s' e rest fault → ∀ bound, ds.length < bound →
      l.drain host bound s = l.failedAt ds rest (host.react e s') fault ∧
      ∀ isOpen, l.run host isOpen bound s = l.failedAt ds rest (host.react e s') fault

theorem fails_fast (plane : Plane σ) : FailsFast plane where
  handle := surfacing_handle plane
  review key value s working := by
    rw [handle_of_working _ working]
    exact handleOption_asks plane key value s
  drain collect isDown bound l s := by
    obtain ⟨ds, h, stopped⟩ := Loop.drain_accounts (recordedHost plane collect isDown) bound l s
    exact ⟨ds, accountsFor_of_accounts plane h, stopped⟩
  run collect isDown isOpen bound l s := by
    obtain ⟨ds, h, halted⟩ := Loop.run_accounts (recordedHost plane collect isDown) isOpen bound l s
    exact ⟨ds, accountsFor_of_accounts plane h, halted⟩
  first collect isDown l s ds l' s' e rest fault h bound enough :=
    ⟨h.drain_eq enough, fun _ => Loop.run_of_drain_fatal (h.drain_eq enough)⟩

/-- On a plane whose connection is lost, the loop delivers a table event, of which the agent asks nothing, and
fails with the order to shut down. -/
theorem fails_fast_when_disconnected :
    let plane : Plane Unit := { answer := fun r s => (.error (.disconnected r.name), s) }
    let host := recordedHost plane (fun s => ([], s)) fun _ => false
    let l : Loop := { pending := [.entrySet default, .enabled false, .initialized] }
    let s : AgentState (Recorded Unit) := { agent := { config := {} }, plane := { plane := () } }
    (l.drain host 2 s).stop = .fatal (.disconnected "status_set") ∧
      (l.drain host 2 s).loop = { pending := [.initialized], dispatched := 2 } := by
  intro plane host l s
  have serves : l.Serves host s [⟨.entrySet default, host.react (.entrySet default) s⟩] _ _ :=
    .cons rfl rfl (.nil _ _)
  have ended := ((fails_fast plane).first _ _ l s _ _ _ (.enabled false) [.initialized]
    (.disconnected "status_set")
    { serves, before := ⟨[], rfl, nofun⟩, up := rfl, waits := rfl,
      answered := ⟨[⟨.publish _ _, .error (.disconnected "status_set")⟩], rfl, _, List.mem_singleton_self _, rfl⟩,
      isFatal := rfl } 2 (by decide)).1
  exact ⟨congrArg Progress.stop ended, congrArg Progress.loop ended⟩

end Agent

end MacAgent
