import MacAgent.Agent.Host
import MacAgent.Plane.Recorded
import MacAgent.Proofs.Agent.Handle
import MacAgent.Proofs.Loop.Deliveries
import MacAgent.Proofs.Plane.Alike

/-! # The bridge does not show

An agent that reads cursors in place and one that reads them through threads do the same. They are set
side by side on a plane in memory whose answers a script may replace, as long as these depend on nothing
but what was asked before. The threads run ahead by any number of steps between one item and the next.
What is seen after every step of either agent is its story, and both stories are one. -/

namespace MacAgent

/-! ### Agents alike but for the bridge -/

/-- The agent, were it to read cursors in place. -/
def Agent.readingInPlace (a : Agent) : Agent := { a with config.bridge := .inline }

/-- What shows of an agent and its plane if the agent's bridge does not. -/
def AgentState.seen {σ ν : Type} (view : σ → ν) (s : AgentState σ) : Agent × ν :=
  (s.agent.readingInPlace, view s.plane)

namespace Alike

variable {σ ν α β : Type} {view : σ → ν}

theorem onPlane {act act' : PlaneM σ α} (h : Alike view act act') :
    Alike (AgentState.seen view) (onPlane act) (onPlane act') := by
  intro s t same
  obtain ⟨agent, plane⟩ := Prod.mk.inj same
  obtain ⟨result, seen⟩ := h s.plane t.plane plane
  exact ⟨result, Prod.ext agent seen⟩

theorem updateAgent {f : Agent → Agent} (h : ∀ a, (f a).readingInPlace = f a.readingInPlace) :
    Alike (AgentState.seen view) (updateAgent f) (updateAgent f) := by
  intro s t same
  obtain ⟨agent, plane⟩ := Prod.mk.inj same
  have seen : (f s.agent).readingInPlace = (f t.agent).readingInPlace := by rw [h, h, agent]
  exact ⟨rfl, Prod.ext seen plane⟩

/-- What follows may depend on the agent, as long as the bridge makes no difference to it. -/
theorem getAgent_bind {f f' : Agent → AgentM σ β}
    (h : ∀ a b, a.readingInPlace = b.readingInPlace → Alike (AgentState.seen view) (f a) (f' b)) :
    Alike (AgentState.seen view) (getAgent >>= f) (getAgent >>= f') := by
  intro s t same
  exact h s.agent t.agent (Prod.mk.inj same).1 s t same

end Alike

namespace Agent

variable {σ ν : Type} {plane : Plane σ} {view : σ → ν}

theorem alike_greet (h : plane.SeenBy view) (name : String) :
    Alike (AgentState.seen view) (greet plane name) (greet plane name) :=
  .ite (.bind (.updateAgent fun _ => rfl) fun _ => .onPlane (h.call _))
    (.bind (.updateAgent fun _ => rfl) fun _ => .onPlane (h.call _))

theorem alike_surveyTable (h : plane.SeenBy view) :
    Alike (AgentState.seen view) (surveyTable plane) (surveyTable plane) := by
  refine Alike.getAgent_bind fun a b _ => ?_
  exact (Alike.onPlane (h.survey a.config.bridge b.config.bridge)).bind fun _ => .updateAgent fun _ => rfl

theorem alike_clearTable (h : plane.SeenBy view) :
    Alike (AgentState.seen view) (clearTable plane) (clearTable plane) := by
  refine Alike.getAgent_bind fun a b _ => ?_
  exact (Alike.onPlane (h.clearAll a.config.bridge b.config.bridge)).bind fun _ => .onPlane (h.call _)

theorem alike_perform (h : plane.SeenBy view) (key value : String) :
    Alike (AgentState.seen view) (perform plane key value) (perform plane key value) := by
  unfold perform
  cases Topic.ofKey? key with
  | none => exact .pure ()
  | some topic =>
    cases topic with
    | name => exact alike_greet h value
    | survey => exact alike_surveyTable h
    | install => exact (Alike.onPlane (h.bindAll _)).bind fun _ => .onPlane (h.call _)
    | clear => exact alike_clearTable h

theorem alike_reviewOptions (h : plane.SeenBy view) :
    Alike (AgentState.seen view) (reviewOptions plane) (reviewOptions plane) := by
  refine (Alike.onPlane (h.call .optionValues)).bind fun values => ?_
  refine Alike.getAgent_bind fun a b _ => ?_
  exact .onPlane (h.traverse a.config.bridge b.config.bridge rfl (fun _ _ => .pure ()) ())

theorem alike_handleOption (h : plane.SeenBy view) (key value : String) :
    Alike (AgentState.seen view) (handleOption plane key value) (handleOption plane key value) := by
  refine (alike_perform h key value).attempt.bind fun result => ?_
  cases result with
  | ok _ => exact alike_reviewOptions h
  | error fault => exact .ite (.throw fault) ((alike_reviewOptions h).bind fun _ => .throw fault)

theorem alike_start (h : plane.SeenBy view) :
    Alike (AgentState.seen view) (start plane) (start plane) := by
  refine .bind (.updateAgent fun _ => rfl) fun _ => ?_
  refine (Alike.onPlane (h.call (.option Topic.name.key))).bind fun _ => ?_
  exact .ite (.onPlane (h.call _)) (alike_handleOption h _ _)

theorem alike_shutDown (h : plane.SeenBy view) :
    Alike (AgentState.seen view) (shutDown plane) (shutDown plane) :=
  (Alike.onPlane (h.call _)).bind fun _ => (Alike.onPlane (h.call (.acknowledge true))).bind fun _ =>
    .updateAgent fun _ => rfl

theorem alike_handle (h : plane.SeenBy view) (e : Event) :
    Alike (AgentState.seen view) (handle plane e) (handle plane e) := by
  refine Alike.getAgent_bind fun a b same => ?_
  have phase : a.phase = b.phase := by simpa [readingInPlace] using congrArg Agent.phase same
  rw [phase]
  cases e with
  | initialized => exact .ite (alike_start h) (.pure ())
  | enabled on => exact .ite (alike_shutDown h) (.pure ())
  | option key value => exact .ite (alike_handleOption h key value) (.pure ())
  | entrySet entry => exact .updateAgent fun _ => rfl
  | entryDeleted key => exact .updateAgent fun _ => rfl

/-- Building an agent is watching the table, if it is configured so. -/
theorem run_build (plane : Plane σ) (config : Config) (s : σ) :
    (build plane config).run.run s =
      if config.watchAll then
        (((plane.watch true).run.run s).1.map fun _ => { config }, ((plane.watch true).run.run s).2)
      else (.ok { config }, s) := by
  unfold build
  cases config.watchAll with
  | false => rfl
  | true =>
    refine (run_bind _ _ s).trans ?_
    rcases (plane.watch true).run.run s with ⟨fault | _, t⟩
    · rfl
    · rfl

end Agent

/-! ### Scripted planes -/

/-- The answer that a plane gives to a request in the place of its own, if any, after the exchanges so
far. -/
abbrev Script := List Exchange → (r : Request) → Option (Except Fault r.Answer)

/-- A plane in memory that follows a script. -/
structure Scripted where
  memory : Memory
  exchanges : List Exchange := []
  /-- How many steps a thread runs ahead before each item that is still to be read. -/
  leads : List Nat := []

namespace Scripted

/-- What shows of a scripted plane if its threads do not. -/
def seen (s : Scripted) : Memory × List Exchange := (s.memory, s.exchanges)

def answer (script : Script) (r : Request) (s : Scripted) : Except Fault r.Answer × Scripted :=
  let (answer, memory) :=
    match script s.exchanges r with
    | some answer => (answer, s.memory)
    | none => s.memory.answer r
  (answer, { s with memory, exchanges := s.exchanges ++ [⟨r, answer⟩] })

def plane (script : Script) : Plane Scripted where
  answer := answer script
  polled _ _ s := { s with leads := s.leads.tail }
  lead s := s.leads.headD 0

def collect (s : Scripted) : List Event × Scripted :=
  let (events, memory) := s.memory.collect
  (events, { s with memory })

theorem plane_seenBy (script : Script) : (plane script).SeenBy seen where
  answer r s t same := by
    obtain ⟨memory, exchanges⟩ := Prod.mk.inj same
    simp only [plane, answer, seen, memory, exchanges]
    exact ⟨trivial, trivial⟩
  polled _ _ _ := rfl

theorem collect_seen {s t : Scripted} (same : s.seen = t.seen) :
    s.collect.1 = t.collect.1 ∧ s.collect.2.seen = t.collect.2.seen := by
  obtain ⟨memory, exchanges⟩ := Prod.mk.inj same
  simp only [collect, seen, memory, exchanges]
  exact ⟨trivial, trivial⟩

end Scripted

/-! ### Stories -/

/-- What happens to an agent, its plane and its queue. -/
inductive Incident where
  /-- The agent is told of an event at once. -/
  | event (e : Event)
  /-- The loop delivers the event that waits longest. -/
  | deliver
  /-- A manager's state is changed by someone else. -/
  | elsewhere (change : Memory → Memory)

/-- An agent with its plane, and the queue in which the plane's events wait. -/
structure Scene where
  state : AgentState Scripted
  loop : Loop := {}

/-- All that can be seen after an incident, with the result of the agent's handler. -/
structure Sight where
  result : Except Fault Unit
  phase : Phase
  greeted : Option String
  lastKeys : List Key
  observed : Nat
  exchanges : List Exchange
  memory : Memory
  loop : Loop

namespace Scene

variable (script : Script)

def host : Host (AgentState Scripted) :=
  Agent.host (Scripted.plane script) Scripted.collect (·.memory.board.isShutDown)

/-- A new agent on a plane that has no events to deliver, or the reason why there is none. -/
def begin (config : Config) (s : Scripted) : Except Fault Scene :=
  let (built, plane) := (Agent.build (Scripted.plane script) config).run.run s
  built.map fun agent => { state := { agent, plane } }

def take (c : Scene) : Incident → Except Fault Unit × Scene
  | .event e =>
    let r := (host script).react e c.state
    (r.result, { state := r.next, loop := c.loop.send r.raised })
  | .deliver =>
    match c.loop.pending with
    | [] => (.ok (), c)
    | e :: rest =>
      let (_, state, loop) := { c.loop with pending := rest }.dispatch (host script) e c.state
      (((host script).react e c.state).result, { state, loop })
  | .elsewhere change =>
    let (events, plane) := { c.state.plane with memory := change c.state.plane.memory }.collect
    (.ok (), { state := { c.state with plane }, loop := c.loop.send events })

def sight (c : Scene) (result : Except Fault Unit) : Sight where
  result := result
  phase := c.state.agent.phase
  greeted := c.state.agent.greeted
  lastKeys := c.state.agent.lastKeys
  observed := c.state.agent.observed
  exchanges := c.state.plane.exchanges
  memory := c.state.plane.memory
  loop := c.loop

/-- What can be seen after each of the incidents, one after another. -/
def story (c : Scene) : List Incident → List Sight
  | [] => []
  | i :: rest =>
    let (result, next) := c.take script i
    next.sight result :: next.story rest

/-- What shows of a scene if neither the bridge nor the threads do. -/
def seen (c : Scene) : (Agent × Memory × List Exchange) × Loop := (c.state.seen Scripted.seen, c.loop)

variable {c d : Scene}

theorem react_seen {s t : AgentState Scripted} (same : s.seen Scripted.seen = t.seen Scripted.seen)
    (e : Event) :
    ((host script).react e s).result = ((host script).react e t).result ∧
    ((host script).react e s).raised = ((host script).react e t).raised ∧
    ((host script).react e s).next.seen Scripted.seen =
      ((host script).react e t).next.seen Scripted.seen := by
  obtain ⟨result, seen⟩ := Agent.alike_handle (Scripted.plane_seenBy script) e s t same
  obtain ⟨agent, plane⟩ := Prod.mk.inj seen
  obtain ⟨raised, collected⟩ := Scripted.collect_seen plane
  exact ⟨result, raised, Prod.ext agent collected⟩

theorem take_seen (same : c.seen = d.seen) (i : Incident) :
    (c.take script i).1 = (d.take script i).1 ∧ (c.take script i).2.seen = (d.take script i).2.seen := by
  obtain ⟨state, loop⟩ := Prod.mk.inj same
  cases i with
  | event e =>
    obtain ⟨result, raised, next⟩ := react_seen script state e
    refine ⟨result, Prod.ext next ?_⟩
    simp only [take, seen, loop, raised]
  | deliver =>
    unfold take
    rw [loop]
    cases d.loop.pending with
    | nil => exact ⟨rfl, same⟩
    | cons e rest =>
      obtain ⟨result, raised, next⟩ := react_seen script state e
      simp only [Loop.dispatch_snd]
      refine ⟨result, Prod.ext next ?_⟩
      have setback : Delivery.isSetback ⟨e, (host script).react e c.state⟩ =
          Delivery.isSetback ⟨e, (host script).react e d.state⟩ := by
        simp only [Delivery.isSetback, result]
      simp only [seen, Loop.after, raised, setback]
  | elsewhere change =>
    obtain ⟨agent, plane⟩ := Prod.mk.inj state
    obtain ⟨memory, exchanges⟩ := Prod.mk.inj plane
    have changed : Scripted.seen { c.state.plane with memory := change c.state.plane.memory } =
        Scripted.seen { d.state.plane with memory := change d.state.plane.memory } := by
      simp only [Scripted.seen, memory, exchanges]
    obtain ⟨raised, collected⟩ := Scripted.collect_seen changed
    refine ⟨rfl, Prod.ext (Prod.ext agent collected) ?_⟩
    simp only [take, seen, loop, raised]

theorem sight_congr (same : c.seen = d.seen) (result : Except Fault Unit) :
    c.sight result = d.sight result := by
  obtain ⟨state, loop⟩ := Prod.mk.inj same
  obtain ⟨agent, plane⟩ := Prod.mk.inj state
  obtain ⟨memory, exchanges⟩ := Prod.mk.inj plane
  simp only [Agent.readingInPlace, Agent.mk.injEq] at agent
  obtain ⟨-, phase, greeted, lastKeys, observed⟩ := agent
  simp only [sight, phase, greeted, lastKeys, observed, memory, exchanges, loop]

theorem story_congr (same : c.seen = d.seen) (incidents : List Incident) :
    c.story script incidents = d.story script incidents := by
  induction incidents generalizing c d with
  | nil => rfl
  | cons i rest ih =>
    obtain ⟨result, next⟩ := take_seen script same i
    simp only [story]
    rw [result, sight_congr next, ih next]

/-- Whatever the options, the table and the script, and whatever happens: an agent that reads cursors in
place has the same story as one that reads them through threads, however far these run ahead. -/
theorem bridge_does_not_show (script : Script) (config : Config) (memory : Memory) (leads : List Nat)
    (incidents : List Incident) :
    (begin script { config with bridge := .inline } { memory }).map (·.story script incidents) =
      (begin script { config with bridge := .threaded } { memory, leads }).map
        (·.story script incidents) := by
  have same {a b : Agent} {s t : Scripted} (agent : a.readingInPlace = b.readingInPlace)
      (plane : s.seen = t.seen) :
      story script { state := { agent := a, plane := s } } incidents =
        story script { state := { agent := b, plane := t } } incidents := by
    refine story_congr script ?_ incidents
    simp only [seen, AgentState.seen, agent, plane]
  simp only [begin, Agent.run_build]
  split
  · have watch : Alike Scripted.seen ((Scripted.plane script).watch true)
        ((Scripted.plane script).watch true) := (Scripted.plane_seenBy script).call _
    obtain ⟨result, seen⟩ := watch { memory } { memory, leads } rfl
    rw [result]
    cases (((Scripted.plane script).watch true).run.run { memory, leads }).1 with
    | error fault => rfl
    | ok _ => exact congrArg Except.ok (same rfl seen)
  · exact congrArg Except.ok (same rfl rfl)

end Scene

end MacAgent
