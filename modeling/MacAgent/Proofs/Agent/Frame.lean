import MacAgent.Proofs.Agent.Handle
import MacAgent.Proofs.Plane.Keeps

/-! # What an agent's work leaves alone

Each thing that an agent does for an option keeps a relation between agents and one between planes,
provided that the plane keeps it under the few requests that the work sends, and the agent under the
one field that the work changes. -/

namespace MacAgent

/-- The agent moves in the way of one relation, and its plane in that of another. -/
def Both {σ : Type} (Ra : Agent → Agent → Prop) (Rp : σ → σ → Prop) (s t : AgentState σ) : Prop :=
  Ra s.agent t.agent ∧ Rp s.plane t.plane

instance {σ : Type} {Ra : Agent → Agent → Prop} {Rp : σ → σ → Prop} [IsPreorder Agent Ra]
    [IsPreorder σ Rp] : IsPreorder (AgentState σ) (Both Ra Rp) where
  refl _ := ⟨refl_of Ra _, refl_of Rp _⟩
  trans _ _ _ h h' := ⟨trans_of Ra h.1 h'.1, trans_of Rp h.2 h'.2⟩

/-- Any change of the agent. -/
def Anyhow (_ _ : Agent) : Prop := True

instance : IsPreorder Agent Anyhow where
  refl _ := trivial
  trans _ _ _ _ _ := trivial

/-- An agent that works goes on to work. -/
def StaysUp (a b : Agent) : Prop := a.phase ≠ .disabled → b.phase ≠ .disabled

instance : IsPreorder Agent StaysUp where
  refl _ := id
  trans _ _ _ h h' := h' ∘ h

/-- A request other than an acknowledgement. -/
def IsWork (r : Request) : Prop := ∀ complete, r ≠ .acknowledge complete

namespace Keeps

variable {σ α : Type} {Ra : Agent → Agent → Prop} {Rp : σ → σ → Prop}

theorem onPlane [IsPreorder Agent Ra] {act : PlaneM σ α} (h : Keeps Rp act) :
    Keeps (Both Ra Rp) (onPlane act) := fun s => ⟨refl_of Ra _, h s.plane⟩

theorem updateAgent [IsPreorder σ Rp] {f : Agent → Agent} (h : ∀ a, Ra a (f a)) :
    Keeps (Both Ra Rp) (updateAgent f : AgentM σ Unit) := fun s => ⟨h s.agent, refl_of Rp _⟩

theorem getAgent [IsPreorder Agent Ra] [IsPreorder σ Rp] :
    Keeps (Both Ra Rp) (getAgent : AgentM σ Agent) := fun s => refl_of (Both Ra Rp) s

end Keeps

namespace Agent

variable {σ : Type} {plane : Plane σ} {P : Request → Prop} {Ra : Agent → Agent → Prop}
  {Rp : σ → σ → Prop} [IsPreorder Agent Ra] [IsPreorder σ Rp]

theorem keeps_greet (h : plane.Heeds P Rp) (publish : ∀ value, P (.publish StatusKey.greeting value))
    (greeted : ∀ a name?, Ra a { a with greeted := name? }) (name : String) :
    Keeps (Both Ra Rp) (greet plane name) :=
  .ite ((Keeps.updateAgent fun a => greeted a none).bind fun _ => .onPlane (h.call (publish _)))
    ((Keeps.updateAgent fun a => greeted a (some name)).bind fun _ => .onPlane (h.call (publish _)))

theorem keeps_surveyTable (h : plane.Heeds P Rp) (keys : P .keys) (lookup : ∀ k, P (.lookup k))
    (publish : ∀ e : Entry, P (.publish e.key.render e.render))
    (lastKeys : ∀ a ks, Ra a { a with lastKeys := ks }) : Keeps (Both Ra Rp) (surveyTable plane) :=
  Keeps.getAgent.bind fun a => (Keeps.onPlane (h.survey keys lookup publish a.config.bridge)).bind
    fun _ => .updateAgent fun a => lastKeys a _

theorem keeps_installExamples (h : plane.Heeds P Rp) (install : ∀ e, P (.install e))
    (publish : ∀ value, P (.publish StatusKey.installed value)) :
    Keeps (Both Ra Rp) (installExamples plane) :=
  (Keeps.onPlane (h.bindAll install exampleBindings)).bind fun _ => .onPlane (h.call (publish _))

theorem keeps_clearTable (h : plane.Heeds P Rp) (keys : P .keys) (delete : ∀ k, P (.delete k))
    (publish : ∀ value, P (.publish StatusKey.cleared value)) :
    Keeps (Both Ra Rp) (clearTable plane) :=
  Keeps.getAgent.bind fun a => (Keeps.onPlane (h.clearAll keys delete a.config.bridge)).bind
    fun _ => .onPlane (h.call (publish _))

theorem keeps_reviewOptions (h : plane.Heeds P Rp) (values : P .optionValues) :
    Keeps (Both Ra Rp) (reviewOptions plane) :=
  (Keeps.onPlane (h.call values)).bind fun _ => Keeps.getAgent.bind fun _ =>
    .onPlane (h.traverse rfl (fun _ _ => .pure ()) ())

/-- What any option may ask for. -/
theorem keeps_perform (h : plane.Heeds P Rp) (publish : ∀ key value, P (.publish key value))
    (keys : P .keys) (lookup : ∀ k, P (.lookup k)) (install : ∀ e, P (.install e))
    (delete : ∀ k, P (.delete k)) (greeted : ∀ a name?, Ra a { a with greeted := name? })
    (lastKeys : ∀ a ks, Ra a { a with lastKeys := ks }) (key value : String) :
    Keeps (Both Ra Rp) (perform plane key value) := by
  unfold perform
  cases Topic.ofKey? key with
  | none => exact .pure ()
  | some topic =>
    cases topic with
    | name => exact keeps_greet h (publish _) greeted value
    | survey => exact keeps_surveyTable h keys lookup (fun e => publish _ _) lastKeys
    | install => exact keeps_installExamples h install (publish _)
    | clear => exact keeps_clearTable h keys delete (publish _)

theorem keeps_handleOption {R : AgentState σ → AgentState σ → Prop} [IsPreorder (AgentState σ) R]
    {key value : String} (hp : Keeps R (perform plane key value)) (hr : Keeps R (reviewOptions plane)) :
    Keeps R (handleOption plane key value) := by
  refine hp.attempt.bind fun result => ?_
  cases result with
  | ok _ => exact hr
  | error fault =>
    exact .ite (.throw fault) (hr.bind fun _ => .throw fault)

theorem keeps_start (h : plane.Heeds P Rp) (option : P (.option Topic.name.key))
    (publish : ∀ value, P (.publish StatusKey.greeting value))
    (enabled : ∀ a, Ra a { a with phase := .enabled })
    (ho : ∀ name, Keeps (Both Ra Rp) (handleOption plane Topic.name.key name)) :
    Keeps (Both Ra Rp) (start plane) :=
  (Keeps.updateAgent enabled).bind fun _ => (Keeps.onPlane (h.call option)).bind fun _ =>
    .ite (.onPlane (h.call (publish _))) (ho _)

theorem keeps_shutDown (h : plane.Heeds P Rp) (publish : ∀ value, P (.publish StatusKey.greeting value))
    (acknowledge : P (.acknowledge true)) (disabled : ∀ a, Ra a { a with phase := .disabled }) :
    Keeps (Both Ra Rp) (shutDown plane) :=
  (Keeps.onPlane (h.call (publish _))).bind fun _ => (Keeps.onPlane (h.call acknowledge)).bind fun _ =>
    .updateAgent disabled

/-- What a plane keeps under all requests, handling any event keeps. -/
theorem keeps_handle (h : plane.Heeds (fun _ => True) Rp) (e : Event) :
    Keeps (Both Anyhow Rp) (handle plane e) := by
  have option (key value : String) : Keeps (Both Anyhow Rp) (handleOption plane key value) :=
    keeps_handleOption (keeps_perform h (fun _ _ => trivial) trivial (fun _ => trivial) (fun _ => trivial)
      (fun _ => trivial) (fun _ _ => trivial) (fun _ _ => trivial) key value) (keeps_reviewOptions h trivial)
  refine Keeps.getAgent.bind fun a => ?_
  cases e with
  | initialized =>
    exact .ite (keeps_start h trivial (fun _ => trivial) (fun _ => trivial) (option _)) (.pure ())
  | enabled on =>
    exact .ite (keeps_shutDown h (fun _ => trivial) trivial fun _ => trivial) (.pure ())
  | option key value => exact .ite (option key value) (.pure ())
  | entrySet entry => exact Keeps.updateAgent fun _ => trivial
  | entryDeleted key => exact Keeps.updateAgent fun _ => trivial

/-- Only being disabled makes an agent acknowledge anything, and stop its work. -/
theorem keeps_respond (h : plane.Heeds IsWork Rp) {e : Event} (he : e ≠ .enabled false) :
    Keeps (Both StaysUp Rp) (respond plane e) := by
  have option (key value : String) : Keeps (Both StaysUp Rp) (handleOption plane key value) := by
    refine keeps_handleOption ?_ (keeps_reviewOptions h nofun)
    exact keeps_perform h (fun _ _ => nofun) nofun (fun _ => nofun) (fun _ => nofun) (fun _ => nofun)
      (fun _ _ => id) (fun _ _ => id) key value
  cases e with
  | initialized => exact keeps_start h nofun (fun _ => nofun) (fun _ _ => nofun) (option _)
  | enabled on =>
    cases on with
    | true => exact .pure ()
    | false => exact absurd rfl he
  | option key value => exact option key value
  | entrySet entry => exact Keeps.updateAgent fun _ => id
  | entryDeleted key => exact Keeps.updateAgent fun _ => id

theorem keeps_build {R : σ → σ → Prop} [IsPreorder σ R] (h : plane.Heeds P R) (watch : P (.watch true))
    (config : Config) : Keeps R (build plane config) :=
  .ite ((h.call watch).bind fun _ => .pure _) (.pure _)

/-- A new agent has done nothing but watch the table. -/
theorem build_eq_ok {config : Config} {s t : σ} {a : Agent}
    (built : (build plane config).run.run s = (.ok a, t)) : a = { config } := by
  unfold build at built
  split at built
  · rw [run_bind] at built
    split at built
    · cases built
      rfl
    · cases built
  · cases built
    rfl

end Agent

end MacAgent
