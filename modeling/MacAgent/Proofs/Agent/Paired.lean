import MacAgent.Proofs.Agent.Handle
import MacAgent.Proofs.Plane.Paired

/-! # One agent on two planes

An agent that works on two planes which answer its requests in the same way, without a fault, does the same
on both and never fails. Only its shutdown and its construction send requests other than these. -/

namespace MacAgent

/-- A request that an agent sends for an event other than the one that disables it. -/
def Request.IsTask : Request → Prop
  | acknowledge _ | watch _ => False
  | option _ | optionValues | status _ | publish .. | keys | lookup _ | install _ | delete _ => True

/-- A task that installs no entry with a reserved VLAN. -/
def Request.IsSafeTask (r : Request) : Prop :=
  r.IsTask ∧ ∀ e, r = .install e → Vlan.Usable e.key.vlan

/-- The same agent, of which `I` holds, with planes that `R` relates. -/
structure SameAgent {σ τ : Type} (I : Agent → Prop) (R : σ → τ → Prop) (s : AgentState σ) (t : AgentState τ) :
    Prop where
  agent : t.agent = s.agent
  holds : I s.agent
  planes : R s.plane t.plane

namespace Paired

variable {σ τ α β : Type} {I : Agent → Prop} {R : σ → τ → Prop}

theorem onPlane {act : PlaneM σ α} {act' : PlaneM τ α} (h : Paired R act act') :
    Paired (SameAgent I R) (onPlane act) (onPlane act') := by
  intro s t same
  obtain ⟨a, p, p', run, run', planes⟩ := h s.plane t.plane same.planes
  exact ⟨a, _, _, Agent.run_onPlane run, Agent.run_onPlane run', same.agent, same.holds, planes⟩

theorem updateAgent {f : Agent → Agent} (h : ∀ a, I a → I (f a)) :
    Paired (SameAgent I R) (updateAgent f) (updateAgent f) := fun s _ same =>
  ⟨(), _, _, rfl, rfl, congrArg f same.agent, h s.agent same.holds, same.planes⟩

theorem getAgent_bind {f : Agent → AgentM σ β} {f' : Agent → AgentM τ β}
    (h : ∀ a, Paired (SameAgent I R) (f a) (f' a)) :
    Paired (SameAgent I R) (getAgent >>= f) (getAgent >>= f') := by
  intro s t same
  have run : (getAgent >>= f').run.run t = (f' s.agent).run.run t := by
    rw [← same.agent]
    rfl
  obtain ⟨a, s', t', first, second, related⟩ := h s.agent s t same
  exact ⟨a, s', t', first, run.trans second, related⟩

end Paired

namespace Agent

variable {σ τ : Type} {plane : Plane σ} {plane' : Plane τ} {I : Agent → Prop} {R : σ → τ → Prop}

theorem paired_greet (h : plane.PairedOn Request.IsSafeTask R plane')
    (greeted : ∀ a name?, I a → I { a with greeted := name? }) (name : String) :
    Paired (SameAgent I R) (greet plane name) (greet plane' name) :=
  .ite ((Paired.updateAgent fun a => greeted a none).bind fun _ => .onPlane (h.call _ ⟨trivial, nofun⟩))
    ((Paired.updateAgent fun a => greeted a (some name)).bind fun _ => .onPlane (h.call _ ⟨trivial, nofun⟩))

theorem paired_surveyTable (h : plane.PairedOn Request.IsSafeTask R plane')
    (lastKeys : ∀ a ks, I a → I { a with lastKeys := ks }) :
    Paired (SameAgent I R) (surveyTable plane) (surveyTable plane') := by
  refine Paired.getAgent_bind fun a => ?_
  have survey := h.survey ⟨trivial, nofun⟩ (fun _ => ⟨trivial, nofun⟩) (fun _ => ⟨trivial, nofun⟩) a.config.bridge
  exact (Paired.onPlane survey).bind fun _ => .updateAgent fun a => lastKeys a _

theorem exampleBindings_usable : ∀ b ∈ exampleBindings, Vlan.Usable (Entry.unicast b.1 b.2).key.vlan := by
  decide

theorem paired_installExamples (h : plane.PairedOn Request.IsSafeTask R plane') :
    Paired (SameAgent I R) (installExamples plane) (installExamples plane') := by
  have bind : Paired R plane.bindExamples plane'.bindExamples := by
    refine h.bindAll fun b listed => ⟨trivial, fun e same => ?_⟩
    cases same
    exact exampleBindings_usable b listed
  exact (Paired.onPlane bind).bind fun _ => .onPlane (h.call _ ⟨trivial, nofun⟩)

theorem paired_clearTable (h : plane.PairedOn Request.IsSafeTask R plane') :
    Paired (SameAgent I R) (clearTable plane) (clearTable plane') := by
  refine Paired.getAgent_bind fun a => ?_
  have clear := h.clearAll ⟨trivial, nofun⟩ (fun _ => ⟨trivial, nofun⟩) a.config.bridge
  exact (Paired.onPlane clear).bind fun _ => .onPlane (h.call _ ⟨trivial, nofun⟩)

theorem paired_perform (h : plane.PairedOn Request.IsSafeTask R plane')
    (greeted : ∀ a name?, I a → I { a with greeted := name? })
    (lastKeys : ∀ a ks, I a → I { a with lastKeys := ks }) (key value : String) :
    Paired (SameAgent I R) (perform plane key value) (perform plane' key value) := by
  unfold perform
  cases Topic.ofKey? key with
  | none => exact .pure ()
  | some topic =>
    cases topic with
    | name => exact paired_greet h greeted value
    | survey => exact paired_surveyTable h lastKeys
    | install => exact paired_installExamples h
    | clear => exact paired_clearTable h

theorem paired_reviewOptions (h : plane.PairedOn Request.IsSafeTask R plane') :
    Paired (SameAgent I R) (reviewOptions plane) (reviewOptions plane') :=
  (Paired.onPlane (h.call .optionValues ⟨trivial, nofun⟩)).bind fun _ => Paired.getAgent_bind fun _ =>
    .onPlane (h.traverse rfl (fun _ _ => .pure ()) ())

theorem paired_handleOption (h : plane.PairedOn Request.IsSafeTask R plane')
    (greeted : ∀ a name?, I a → I { a with greeted := name? })
    (lastKeys : ∀ a ks, I a → I { a with lastKeys := ks }) (key value : String) :
    Paired (SameAgent I R) (handleOption plane key value) (handleOption plane' key value) :=
  (paired_perform h greeted lastKeys key value).attempt_bind fun _ => paired_reviewOptions h

theorem paired_start (h : plane.PairedOn Request.IsSafeTask R plane')
    (enabled : ∀ a, I a → I { a with phase := .enabled })
    (greeted : ∀ a name?, I a → I { a with greeted := name? })
    (lastKeys : ∀ a ks, I a → I { a with lastKeys := ks }) :
    Paired (SameAgent I R) (start plane) (start plane') :=
  (Paired.updateAgent enabled).bind fun _ =>
    (Paired.onPlane (h.call (.option Topic.name.key) ⟨trivial, nofun⟩)).bind fun _ =>
      .ite (.onPlane (h.call _ ⟨trivial, nofun⟩)) (paired_handleOption h greeted lastKeys _ _)

end Agent

end MacAgent
