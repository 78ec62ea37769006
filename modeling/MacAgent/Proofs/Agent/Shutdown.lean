import MacAgent.Memory.Basic
import MacAgent.Proofs.Agent.Frame
import MacAgent.Proofs.Agent.Handle
import MacAgent.Proofs.Plane.Asked

/-! # Shutting down once

Only the shutdown acknowledges, and only an acknowledgement that succeeds disables the agent. So a
plane, whatever it answers, sees one successful acknowledgement from an agent that is disabled, right
after the farewell and as the last thing, and none from any other agent. -/

namespace MacAgent

/-- Whether an exchange is a shutdown that the plane has taken note of. -/
def Exchange.isAcknowledged (x : Exchange) : Bool :=
  x.request = .acknowledge true && x.answer.isOk

def Exchange.farewell (answer : Except Fault Unit) : Exchange :=
  ⟨.publish StatusKey.greeting Greeting.farewell, answer⟩

def Exchange.acknowledgement (answer : Except Fault Unit) : Exchange := ⟨.acknowledge true, answer⟩

namespace Agent

variable {σ : Type} {plane : Plane σ} {s t : AgentState (Recorded σ)}

/-- The states of an agent and its plane between two events. The plane may change on its own. -/
inductive Reachable (plane : Plane σ) : AgentState (Recorded σ) → Prop where
  | built (config : Config) (x : σ) {agent : Agent} {t : Recorded σ} :
      (build plane.recorded config).run.run { plane := x } = (.ok agent, t) →
      Reachable plane { agent, plane := t }
  | handled {s : AgentState (Recorded σ)} (e : Event) :
      Reachable plane s → Reachable plane ((handle plane.recorded e).run.run s).2
  | elsewhere {s : AgentState (Recorded σ)} (x : σ) :
      Reachable plane s → Reachable plane { s with plane.plane := x }

/-! ### What a shutdown does -/

/-- The three ways in which a shutdown ends: its exchanges, its result and the agent after it. -/
inductive ShutDown (a : Agent) : List Exchange → Except Fault Unit → Agent → Prop where
  | farewellFails (fault : Fault) : ShutDown a [.farewell (.error fault)] (.error fault) a
  | acknowledgementFails (fault : Fault) :
      ShutDown a [.farewell (.ok ()), .acknowledgement (.error fault)] (.error fault) a
  | done :
      ShutDown a [.farewell (.ok ()), .acknowledgement (.ok ())] (.ok ()) { a with phase := .disabled }

theorem shutDown_cases (plane : Plane σ) (s : AgentState (Recorded σ)) :
    ∃ calls result t, (shutDown plane.recorded).run.run s = (result, t) ∧
      t.plane.exchanges = s.plane.exchanges ++ calls ∧ ShutDown s.agent calls result t.agent := by
  obtain ⟨answer, p, first, said⟩ :=
    Recorded.call_cases plane (.publish StatusKey.greeting Greeting.farewell) s.plane
  obtain ⟨answer', p', second, acknowledged⟩ := Recorded.call_cases plane (.acknowledge true) p
  have farewell := run_onPlane first
  have acknowledgement := run_onPlane (s := { s with plane := p }) second
  unfold shutDown
  cases answer with
  | error fault => exact ⟨_, _, _, run_bind_error farewell, said, .farewellFails fault⟩
  | ok _ =>
    cases answer' with
    | error fault =>
      refine ⟨_, _, _, (run_bind_ok farewell).trans (run_bind_error acknowledgement), ?_,
        .acknowledgementFails fault⟩
      rw [acknowledged, said, List.append_assoc]
      rfl
    | ok _ =>
      refine ⟨_, _, _, (run_bind_ok farewell).trans (run_bind_ok acknowledgement), ?_, .done⟩
      show p'.exchanges = _
      rw [acknowledged, said, List.append_assoc]
      rfl

/-! ### Every reachable state -/

/-- What the phase of an agent says about what its plane has seen. -/
structure Acknowledges (s : AgentState (Recorded σ)) : Prop where
  /-- The plane has taken note of one shutdown of a disabled agent, and of none of any other. -/
  count : s.plane.exchanges.countP (·.isAcknowledged) = if s.agent.phase = .disabled then 1 else 0
  /-- The farewell came right before, and nothing after. -/
  last : s.agent.phase = .disabled → ∃ before, s.plane.exchanges =
    before ++ [.farewell (.ok ()), .acknowledgement (.ok ())]

theorem Acknowledges.of_work (h : Acknowledges s) (working : s.agent.phase ≠ .disabled)
    (kept : Both StaysUp (Recorded.Asked IsWork) s t) : Acknowledges t := by
  obtain ⟨up, calls, asked, work⟩ := kept
  have none_new : calls.countP (·.isAcknowledged) = 0 := by
    refine List.countP_eq_zero.mpr fun x hx => ?_
    simp [Exchange.isAcknowledged, work x hx true]
  refine ⟨?_, fun down => absurd down (up working)⟩
  rw [asked, List.countP_append, h.count, none_new, if_neg working, if_neg (up working)]

theorem Acknowledges.of_shutDown {calls : List Exchange} {result : Except Fault Unit}
    (h : Acknowledges s) (working : s.agent.phase ≠ .disabled)
    (asked : t.plane.exchanges = s.plane.exchanges ++ calls)
    (shut : ShutDown s.agent calls result t.agent) : Acknowledges t := by
  have count := h.count
  rw [if_neg working] at count
  rcases t with ⟨a, p⟩
  cases shut with
  | farewellFails fault =>
    refine ⟨?_, fun down => absurd down working⟩
    rw [asked, List.countP_append, count, if_neg working]
    rfl
  | acknowledgementFails fault =>
    refine ⟨?_, fun down => absurd down working⟩
    rw [asked, List.countP_append, count, if_neg working]
    rfl
  | done =>
    refine ⟨?_, fun _ => ⟨_, asked⟩⟩
    rw [asked, List.countP_append, count, if_pos rfl]
    rfl

theorem Acknowledges.handle (h : Acknowledges s) (e : Event) :
    Acknowledges ((handle plane.recorded e).run.run s).2 := by
  by_cases down : s.agent.phase = .disabled
  · obtain ⟨n, hn⟩ := handle_of_disabled plane.recorded down e
    rw [hn]
    exact ⟨h.count, h.last⟩
  · rw [handle_of_working _ down]
    by_cases he : e = .enabled false
    · subst he
      obtain ⟨calls, result, t, run, asked, shut⟩ := shutDown_cases plane s
      exact congrArg Prod.snd run ▸ h.of_shutDown down asked shut
    · exact h.of_work down (keeps_respond (Recorded.heeds plane IsWork) he s)

theorem Reachable.acknowledges (reached : Reachable plane s) : Acknowledges s := by
  induction reached with
  | built config x built =>
    obtain rfl := build_eq_ok built
    have asked := keeps_build (Recorded.heeds plane IsWork) nofun config { plane := x }
    rw [built] at asked
    refine Acknowledges.of_work (s := { agent := { config }, plane := { plane := x } }) ?_ nofun ⟨id, asked⟩
    exact ⟨rfl, nofun⟩
  | handled e _ ih => exact ih.handle e
  | elsewhere x _ ih => exact ⟨ih.count, ih.last⟩

/-- What is known about shutdowns in a state of an agent and its plane. -/
structure ShutsDown (plane : Plane σ) (s : AgentState (Recorded σ)) : Prop extends Acknowledges s where
  /-- A disabled agent asks for nothing, and changes in nothing but its number of table events. -/
  silent : s.agent.phase = .disabled → ∀ e, ∃ n,
    (Agent.handle plane.recorded e).run.run s = (.ok (), { s with agent.observed := n })
  /-- Any other agent that is to be disabled takes both steps, however often it failed before. -/
  disable : s.agent.phase ≠ .disabled → ∃ calls result t,
    (Agent.handle plane.recorded (.enabled false)).run.run s = (result, t) ∧
      t.plane.exchanges = s.plane.exchanges ++ calls ∧ ShutDown s.agent calls result t.agent

theorem shuts_down_once (reached : Reachable plane s) : ShutsDown plane s where
  toAcknowledges := reached.acknowledges
  silent down := handle_of_disabled _ down
  disable working := by
    rw [handle_of_working _ working]
    exact shutDown_cases plane s

theorem shuts_down_once_in_memory :
    ∃ s, Reachable Memory.plane s ∧ s.agent.phase = .disabled ∧ ShutsDown Memory.plane s :=
  have reached : Reachable Memory.plane _ := .built { watchAll := false } {} rfl
  ⟨_, reached.handled (.enabled false), rfl, shuts_down_once (reached.handled (.enabled false))⟩

end Agent

end MacAgent
