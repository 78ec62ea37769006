import MacAgent.Proofs.Agent.Frame
import MacAgent.Proofs.Rig.Tapped
import MacAgent.Proofs.Value.Canonical

/-! # What an event does to the greeting

An event for the name settles what the agent greets and what it publishes, and so does the
initialization, by the name in the store. No other event has to do with either. -/

namespace MacAgent

/-- What the greeting shows of a name. -/
def Greeting.Shows : Option String → Option String → Prop
  | some name, greeting? => greeting? = some (hello name)
  | none, greeting? => greeting? = some goodbye ∨ greeting? = some prompt

namespace Agent

variable {s : AgentState Tapped}

/-- The agent greets as before. -/
def SameGreeted (a b : Agent) : Prop := b.greeted = a.greeted

instance : IsPreorder Agent SameGreeted where
  refl _ := rfl
  trans _ _ _ h h' := Eq.trans h' h

theorem run_option (clear : s.plane.plane.rules = []) (connected : s.plane.memory.board.connected)
    (key : String) : ∃ t, (onPlane (Rig.plane.option key)).run.run s =
        (.ok s.plane.memory.board.options[key]?, t) ∧ t.agent = s.agent ∧ t.plane.plane.rules = [] ∧
      t.plane.memory = s.plane.memory := by
  obtain ⟨p, run, clear', memory⟩ := Rig.run_call (r := .option key) nofun clear connected
  exact ⟨_, run_onPlane run, rfl, clear', memory⟩

theorem run_publishGreeting (clear : s.plane.plane.rules = []) (connected : s.plane.memory.board.connected)
    (value : String) : ∃ t, (onPlane (Rig.plane.publishGreeting value)).run.run s = (.ok (), t) ∧
      t.agent = s.agent ∧ t.plane.memory.greeting? = some value := by
  obtain ⟨p, run, -, memory⟩ := Rig.run_call (r := .publish StatusKey.greeting value) nofun clear connected
  refine ⟨_, run_onPlane run, rfl, ?_⟩
  have shown := s.plane.memory.publish_greeting? StatusKey.greeting value
  rw [if_pos rfl] at shown
  exact (congrArg Memory.greeting? memory).trans shown

theorem run_greet (clear : s.plane.plane.rules = []) (connected : s.plane.memory.board.connected)
    (name : String) : ∃ t, (greet Rig.plane name).run.run s = (.ok (), t) ∧
      t.agent.greeted = Board.entered name ∧ Greeting.Shows (Board.entered name) t.plane.memory.greeting? := by
  unfold greet Board.entered
  split
  · obtain ⟨t, run, agent, shown⟩ := run_publishGreeting (s := { s with agent.greeted := none }) clear
      connected Greeting.goodbye
    refine ⟨t, (run_bind_ok rfl).trans run, ?_, .inl shown⟩
    rw [agent]
  · obtain ⟨t, run, agent, shown⟩ := run_publishGreeting (s := { s with agent.greeted := some name })
      clear connected (Greeting.hello name)
    refine ⟨t, (run_bind_ok rfl).trans run, ?_, shown⟩
    rw [agent]

/-- An event for the name settles what is greeted. -/
theorem greeted_of_handleOption (clear : s.plane.plane.rules = [])
    (connected : s.plane.memory.board.connected) {name : String} {t : AgentState Tapped}
    (ht : ((handleOption Rig.plane Topic.name.key name).run.run s).2 = t) :
    t.agent.greeted = Board.entered name ∧ Greeting.Shows (Board.entered name) t.plane.memory.greeting? := by
  obtain ⟨u, run, greeted, shown⟩ := run_greet clear connected name
  have reviewed : Both SameGreeted (Tapped.Under Memory.SameGreeting) u t := by
    rw [← ht]
    unfold handleOption
    have performed : (perform Rig.plane Topic.name.key name).run.run s = (.ok (), u) := run
    rw [run_bind, run_attempt, performed]
    exact keeps_reviewOptions (Rig.heeds Memory.heeds_sameGreeting) nofun u
  obtain ⟨sameGreeted, -, sameGreeting⟩ := reviewed
  exact ⟨sameGreeted.trans greeted, by rw [sameGreeting]; exact shown⟩

/-- The initialization settles it if no name is greeted while there is none. -/
theorem greeted_of_start (clear : s.plane.plane.rules = []) (connected : s.plane.memory.board.connected)
    (tidy : s.plane.memory.board.IsTidy) (unnamed : s.plane.memory.name? = none → s.agent.greeted = none)
    {t : AgentState Tapped} (ht : ((start Rig.plane).run.run s).2 = t) :
    t.agent.greeted = s.plane.memory.name? ∧
      Greeting.Shows s.plane.memory.name? t.plane.memory.greeting? := by
  obtain ⟨u, asked, agent, clear', memory⟩ :=
    run_option (s := { s with agent.phase := .enabled }) clear connected Topic.name.key
  have connected' : u.plane.memory.board.connected := by
    rw [memory]
    exact connected
  have steps : (start Rig.plane).run.run s =
      (if s.plane.memory.name?.getD "" = "" then onPlane (Rig.plane.publishGreeting Greeting.prompt)
        else handleOption Rig.plane Topic.name.key (s.plane.memory.name?.getD "")).run.run u := by
    unfold start
    exact (run_bind_ok (a := ()) rfl).trans (run_bind_ok asked)
  rw [steps] at ht
  cases name : s.plane.memory.name? with
  | none =>
    rw [name, Option.getD_none, if_pos rfl] at ht
    obtain ⟨v, run, agent', shown⟩ := run_publishGreeting clear' connected' Greeting.prompt
    obtain rfl : v = t := by
      rw [← ht, run]
    refine ⟨?_, .inr shown⟩
    rw [agent', agent]
    exact unnamed name
  | some n =>
    have full : n ≠ "" := by
      rintro rfl
      exact tidy _ name
    rw [name, Option.getD_some, if_neg full] at ht
    obtain ⟨greeted, shown⟩ := greeted_of_handleOption clear' connected' ht
    rw [Board.entered_of_ne full] at greeted shown
    exact ⟨greeted, shown⟩

end Agent

/-! ### Events that carry no name -/

theorem Topic.key_of_ofKey? {option : String} {topic : Topic} (h : ofKey? option = some topic) :
    topic.key = option := by
  simpa using List.find?_some h

namespace Event

/-- The name that an event carries. -/
def name? : Event → Option String
  | .option key value => if key = Topic.name.key then some value else none
  | .initialized | .enabled _ | .entrySet _ | .entryDeleted _ => none

@[simp]
theorem name?_option (name : String) : (option Topic.name.key name).name? = some name := by
  unfold name?
  exact if_pos rfl

theorem IsNotice.name?_eq_none {e : Event} (h : e.IsNotice) : e.name? = none := by
  cases h with
  | entrySet entry => rfl
  | entryDeleted key => rfl

theorem eq_of_name? {e : Event} {name : String} (h : e.name? = some name) :
    e = .option Topic.name.key name := by
  cases e with
  | option key value =>
    unfold name? at h
    dsimp only at h
    split at h
    · rename_i hk
      obtain rfl := Option.some.inj h
      rw [hk]
    · cases h
  | initialized | enabled | entrySet | entryDeleted => cases h

end Event

namespace Agent

/-- No other event has to do with what is greeted. -/
theorem keeps_greeting {σ : Type} {plane : Plane σ} {R : σ → σ → Prop} [IsPreorder σ R]
    (heeds : plane.Heeds Memory.IsNoGreeting R) {e : Event} (he : e.name? = none) (later : e ≠ .initialized)
    (stays : e ≠ .enabled false) : Keeps (Both SameGreeted R) (respond plane e) := by
  cases e with
  | initialized => exact absurd rfl later
  | enabled on =>
    cases on with
    | true => exact .pure ()
    | false => exact absurd rfl stays
  | option key value =>
    refine keeps_handleOption ?_ (keeps_reviewOptions heeds nofun)
    unfold perform
    rcases found : Topic.ofKey? key with _ | topic
    · exact .pure ()
    · cases topic with
      | name =>
        obtain rfl := Topic.key_of_ofKey? found
        cases he
      | survey =>
        refine keeps_surveyTable heeds nofun (fun _ => nofun) (fun e value h => ?_) fun _ _ => rfl
        exact e.key.render_ne_of_take (by decide) (Request.publish.inj h).1
      | install =>
        refine keeps_installExamples heeds (fun _ => nofun) fun _ _ h => ?_
        exact absurd (Request.publish.inj h).1 (by decide)
      | clear =>
        refine keeps_clearTable heeds nofun (fun _ => nofun) fun _ _ h => ?_
        exact absurd (Request.publish.inj h).1 (by decide)
  | entrySet entry => exact Keeps.updateAgent fun _ => rfl
  | entryDeleted key => exact Keeps.updateAgent fun _ => rfl

end Agent

end MacAgent
