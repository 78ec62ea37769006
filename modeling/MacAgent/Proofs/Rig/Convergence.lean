import MacAgent.Proofs.Loop.Deliveries
import MacAgent.Proofs.Rig.Greeting

/-! # The greeting follows the name

An option changes in the store at once, and reaches the agent only when its event is delivered; and an
agent that is initialized reads the store, ahead of the events. So the agent may greet another name
than the store holds, but only while an event for the name is in the queue, and the last of these
carries what the store holds. -/

namespace MacAgent

/-- The agent greets the name in the store, and says so. -/
def Memory.GreetedBy (m : Memory) (a : Agent) : Prop :=
  a.greeted = m.name? ∧ Greeting.Shows m.name? m.greeting?

namespace Event

/-- The name that the last of these events carries that carries one. -/
def lastName? (events : List Event) : Option String := (events.filterMap name?).getLast?

@[simp]
theorem lastName?_append (events events' : List Event) :
    lastName? (events ++ events') = (lastName? events').or (lastName? events) := by
  unfold lastName?
  rw [List.filterMap_append, List.getLast?_append]

theorem lastName?_singleton (e : Event) : lastName? [e] = e.name? := by
  unfold lastName?
  cases h : e.name? with
  | none => rw [List.filterMap_cons_none h]; rfl
  | some name => rw [List.filterMap_cons_some h]; rfl

@[simp]
theorem lastName?_cons (e : Event) (events : List Event) :
    lastName? (e :: events) = (lastName? events).or e.name? := by
  rw [← List.singleton_append, lastName?_append, lastName?_singleton]

theorem lastName?_eq_none {events : List Event} (h : ∀ e ∈ events, e.name? = none) :
    lastName? events = none := by
  unfold lastName?
  rw [List.filterMap_eq_nil_iff.mpr h]
  rfl

end Event

namespace Rig

/-- A test bed after these commands of the console and these deliveries, in any order. -/
inductive Converse (config : Config) (options : List (String × String)) :
    List Command → List Event → Rig → Prop where
  | start : Converse config options [] [] ((ofOptions options).build config).2
  | apply {commands : List Command} {events : List Event} {rig : Rig} (c : Command) :
      Converse config options commands events rig → c ≠ .disable →
      Converse config options (commands ++ [c]) events (rig.apply c).2
  | deliver {commands : List Command} {events : List Event} {rig : Rig} {a : Agent} {l : Loop} {e : Event}
      {rest : List Event} :
      Converse config options commands events rig → rig.agent? = some a → rig.loop? = some l →
      l.pending = e :: rest →
      Converse config options commands (events ++ [e]) (rig.dispatch a { l with pending := rest } e).2

/-! ### What a step does to the test bed -/

/-- Emptying the outbox of a test bed into its queue. -/
theorem apply_eq (c : Command) (rig : Rig) :
    (rig.apply c).2 = { rig with
      tap := rig.tap.withMemory { (Console.apply rig.listening c rig.memory).2 with outbox := [] }
      loop? := rig.loop?.map (·.send (Console.apply rig.listening c rig.memory).2.outbox) } := rfl

theorem dispatch_eq (a : Agent) (l : Loop) (e : Event) (rig : Rig) {s : AgentState Tapped}
    (hs : ((Agent.handle plane e).run.run { agent := a, plane := rig.tap }).2 = s) :
    ∃ l', l'.pending = l.pending ++ s.plane.memory.outbox ∧ (rig.dispatch a l e).2 =
      { rig with
        tap := s.plane.withMemory { s.plane.memory with outbox := [] }
        agent? := some s.agent
        loop? := some l' } := by
  subst hs
  refine ⟨(l.after ⟨e, host.react e { agent := a, plane := rig.tap }⟩).send [], List.append_nil _, ?_⟩
  unfold dispatch
  rcases Loop.dispatch_cases host e { agent := a, plane := rig.tap } l with ⟨-, run⟩ | ⟨fault, -, -, run⟩
  · rw [run]
    rfl
  · rw [run]
    rfl

/-! ### What a command does to the plane -/

/-- A command tells the agent of a name just when it changes the name in the store, and of the same. -/
structure Follows (c : Command) (m m' : Memory) : Prop where
  connected : m'.board.connected = m.board.connected
  greeting : m'.greeting? = m.greeting?
  tidy : m.board.IsTidy → m'.board.IsTidy
  stays : .enabled false ∉ m'.outbox
  unnamed : Event.lastName? m'.outbox = none → m'.name? = m.name? ∧ ∀ name, c ≠ .option Topic.name.key name
  named : ∀ name, Event.lastName? m'.outbox = some name → m'.name? = Board.entered name

theorem follows_of_quiet {c : Command} {m m' : Memory} (options : m'.board.options = m.board.options)
    (connected : m'.board.connected = m.board.connected) (greeting : m'.greeting? = m.greeting?)
    (quiet : ∀ e ∈ m'.outbox, e.name? = none ∧ e ≠ .enabled false)
    (other : ∀ name, c ≠ .option Topic.name.key name) : Follows c m m' := by
  have unnamed : Event.lastName? m'.outbox = none := Event.lastName?_eq_none fun e he => (quiet e he).1
  refine ⟨connected, greeting, fun tidy => tidy.congr options, fun h => (quiet _ h).2 rfl, ?_, ?_⟩
  · exact fun _ => ⟨Memory.name?_congr options, other⟩
  · rw [unnamed]
    exact nofun

theorem follows_of_notify {c : Command} {m : Memory} {e : Event} (sent : m.outbox = [])
    (quiet : e.name? = none ∧ e ≠ .enabled false) (other : ∀ name, c ≠ .option Topic.name.key name) :
    Follows c m (Console.notify true e m).2 := by
  refine follows_of_quiet rfl rfl rfl (fun e' he => ?_) other
  have only : e' ∈ m.outbox ++ [e] := he
  rw [sent, List.nil_append] at only
  obtain rfl := List.mem_singleton.mp only
  exact quiet

theorem follows_of_frame {c : Command} {m m' : Memory} (sent : m.outbox = []) (frame : m.Frame m')
    (greeting : m.SameGreeting m') (other : ∀ name, c ≠ .option Topic.name.key name) : Follows c m m' := by
  obtain ⟨events, outbox, notices⟩ := frame.outbox
  rw [sent, List.nil_append] at outbox
  refine follows_of_quiet frame.options frame.connected greeting (fun e he => ?_) other
  have notice := notices e (outbox ▸ he)
  refine ⟨notice.name?_eq_none, ?_⟩
  rintro rfl
  cases notice

theorem follows_of_option (key value : String) {m : Memory} (sent : m.outbox = []) :
    Follows (.option key value) m (Console.apply true (.option key value) m).2 := by
  have outbox : (Console.apply true (.option key value) m).2.outbox = [.option key value] :=
    congrArg (· ++ [Event.option key value]) sent
  have store : (Console.apply true (.option key value) m).2.name? =
      if key = Topic.name.key then Board.entered value else m.name? :=
    m.board.setOption_options key value Topic.name.key
  refine ⟨rfl, rfl, fun tidy => tidy.setOption key value, ?_, ?_, ?_⟩
  · rw [outbox]
    simp
  · rw [outbox, Event.lastName?_singleton, store]
    intro unnamed
    by_cases named : key = Topic.name.key
    · rw [named, Event.name?_option] at unnamed
      cases unnamed
    · rw [if_neg named]
      exact ⟨rfl, fun name h => named (Command.option.inj h).1⟩
  · rw [outbox, Event.lastName?_singleton, store]
    intro name named
    obtain ⟨rfl, rfl⟩ := Event.option.inj (Event.eq_of_name? named)
    exact if_pos rfl

theorem follows_of_apply {c : Command} (stays : c ≠ .disable) {m : Memory} (sent : m.outbox = []) :
    Follows c m (Console.apply true c m).2 := by
  cases c with
  | init => exact follows_of_notify sent ⟨rfl, nofun⟩ nofun
  | enable => exact follows_of_notify sent ⟨rfl, nofun⟩ nofun
  | disable => exact absurd rfl stays
  | option key value => exact follows_of_option key value sent
  | install entry =>
    have h := (Memory.heeds_frame (fun _ => True)).answer (.install entry) trivial m
    have h' := Memory.heeds_sameGreeting.answer (.install entry) nofun m
    exact follows_of_frame sent h h' nofun
  | delete key =>
    have h := (Memory.heeds_frame (fun _ => True)).answer (.delete key) trivial m
    have h' := Memory.heeds_sameGreeting.answer (.delete key) nofun m
    exact follows_of_frame sent h h' nofun
  | exit => exact follows_of_frame sent (refl_of Memory.Frame m) rfl nofun

/-! ### Between commands and deliveries -/

/-- No name has been greeted, and nothing has told the agent of one. -/
def IsFresh (commands : List Command) (events : List Event) (a : Agent) : Prop :=
  a.greeted = none ∧ .initialized ∉ events ∧ ∀ name, .option Topic.name.key name ∉ commands

/-- What holds of a test bed between commands and deliveries. -/
structure Inv (commands : List Command) (events : List Event) (a : Agent) (l : Loop) (t : Tapped) :
    Prop where
  clear : t.plane.rules = []
  connected : t.memory.board.connected
  tidy : t.memory.board.IsTidy
  sent : t.memory.outbox = []
  working : a.phase ≠ .disabled
  stays : .enabled false ∉ l.pending
  /-- The last name in the queue is the one in the store. -/
  queued : ∀ name, Event.lastName? l.pending = some name → t.memory.name? = Board.entered name
  /-- When no name is in the queue, the agent has caught up with the store. -/
  settled : Event.lastName? l.pending = none → t.memory.GreetedBy a ∨ IsFresh commands events a

variable {config : Config} {options : List (String × String)} {commands : List Command} {events : List Event}
  {a : Agent} {l l' : Loop} {t : Tapped} {rig : Rig}

theorem Inv.apply (h : Inv commands events a l t) {c : Command} (stays : c ≠ .disable) :
    Inv (commands ++ [c]) events a (l.send (Console.apply true c t.memory).2.outbox)
      (t.withMemory { (Console.apply true c t.memory).2 with outbox := [] }) := by
  have follows := follows_of_apply stays h.sent
  generalize (Console.apply true c t.memory).2 = m at follows
  have queue : Event.lastName? (l.send m.outbox).pending =
      (Event.lastName? m.outbox).or (Event.lastName? l.pending) := Event.lastName?_append _ _
  refine ⟨h.clear, follows.connected.trans h.connected, follows.tidy h.tidy, rfl, h.working, ?_, ?_, ?_⟩
  · exact fun mem => (List.mem_append.mp mem).elim h.stays follows.stays
  · rw [queue]
    intro name queued
    cases new : Event.lastName? m.outbox with
    | some name' =>
      rw [new] at queued
      obtain rfl := Option.some.inj queued
      exact follows.named _ new
    | none =>
      rw [new] at queued
      exact (follows.unnamed new).1.trans (h.queued name queued)
  · rw [queue, Option.or_eq_none_iff]
    rintro ⟨new, old⟩
    obtain ⟨same, other⟩ := follows.unnamed new
    rcases h.settled old with ⟨greeted, shown⟩ | ⟨none, silent, unnamed⟩
    · have now : Greeting.Shows m.name? m.greeting? := by
        rw [same, follows.greeting]
        exact shown
      exact .inl ⟨greeted.trans same.symm, now⟩
    · refine .inr ⟨none, silent, fun name mem => ?_⟩
      rcases List.mem_append.mp mem with mem | mem
      · exact unnamed name mem
      · exact other name (List.mem_singleton.mp mem).symm

/-- A delivery that leaves no name in the queue catches up with the store, if there is a name or an
initialization to catch up with. -/
theorem Inv.settled_of_respond (h : Inv commands events a l t) {e : Event} {rest : List Event}
    (waits : l.pending = e :: rest) (stays : e ≠ .enabled false) (done : Event.lastName? rest = none)
    {s : AgentState Tapped} (run : ((Agent.respond plane e).run.run { agent := a, plane := t }).2 = s)
    (same : s.plane.memory.name? = t.memory.name?) :
    s.plane.memory.GreetedBy s.agent ∨ IsFresh commands (events ++ [e]) s.agent := by
  have queue : Event.lastName? l.pending = e.name? := by
    rw [waits, Event.lastName?_cons, done, Option.none_or]
  unfold Memory.GreetedBy
  rw [same]
  cases named : e.name? with
  | some name =>
    obtain rfl := Event.eq_of_name? named
    rw [h.queued name (queue.trans named)]
    exact .inl (Agent.greeted_of_handleOption h.clear h.connected run)
  | none =>
    have settled := h.settled (queue.trans named)
    by_cases first : e = .initialized
    · subst first
      refine .inl (Agent.greeted_of_start h.clear h.connected h.tidy (fun unnamed => ?_) run)
      rcases settled with ⟨greeted, -⟩ | ⟨none, -⟩
      · exact greeted.trans unnamed
      · exact none
    · obtain ⟨sameGreeted, -, sameGreeting⟩ :=
        Agent.keeps_greeting (heeds Memory.heeds_sameGreeting) named first stays { agent := a, plane := t }
      rw [run] at sameGreeted sameGreeting
      rcases settled with ⟨greeted, shown⟩ | ⟨none, silent, unnamed⟩
      · rw [← (sameGreeting : s.plane.memory.greeting? = t.memory.greeting?)] at shown
        exact .inl ⟨sameGreeted.trans greeted, shown⟩
      · refine .inr ⟨sameGreeted.trans none, fun mem => ?_, unnamed⟩
        rcases List.mem_append.mp mem with mem | mem
        · exact silent mem
        · exact first (List.mem_singleton.mp mem).symm

theorem Inv.deliver (h : Inv commands events a l t) {e : Event} {rest : List Event}
    (waits : l.pending = e :: rest) {s : AgentState Tapped}
    (run : ((Agent.handle plane e).run.run { agent := a, plane := t }).2 = s)
    (queue : l'.pending = rest ++ s.plane.memory.outbox) :
    Inv commands (events ++ [e]) s.agent l' (s.plane.withMemory { s.plane.memory with outbox := [] }) := by
  have stays : e ≠ .enabled false := by
    rintro rfl
    exact h.stays (waits ▸ List.mem_cons_self)
  rw [Agent.handle_of_working plane h.working] at run
  obtain ⟨up, clear, frame⟩ := Agent.keeps_respond (heeds (Memory.heeds_frame IsWork)) stays
    { agent := a, plane := t }
  rw [run] at up clear frame
  obtain ⟨notices, outbox, isNotice⟩ := frame.outbox
  have outbox : s.plane.memory.outbox = notices := outbox.trans (congrArg (· ++ notices) h.sent)
  have last : Event.lastName? l'.pending = Event.lastName? rest := by
    rw [queue, outbox, Event.lastName?_append,
      Event.lastName?_eq_none fun e he => (isNotice e he).name?_eq_none, Option.none_or]
  have same : s.plane.memory.name? = t.memory.name? := Memory.name?_congr frame.options
  have tidy : s.plane.memory.board.IsTidy := h.tidy.congr frame.options
  refine ⟨clear h.clear, frame.connected.trans h.connected, tidy, rfl, up h.working, ?_, ?_, ?_⟩
  · rw [queue, outbox]
    intro mem
    rcases List.mem_append.mp mem with mem | mem
    · exact h.stays (waits ▸ List.mem_cons_of_mem e mem)
    · cases isNotice _ mem
  · rw [last]
    intro name named
    refine same.trans (h.queued name ?_)
    rw [waits, Event.lastName?_cons, named, Option.some_or]
  · rw [last]
    exact fun done => h.settled_of_respond waits stays done run same

/-! ### Every interleaving -/

theorem inv_start (config : Config) (options : List (String × String)) :
    ∃ l, ((ofOptions options).build config).2.agent? = some { config } ∧
      ((ofOptions options).build config).2.loop? = some l ∧
      Inv [] [] { config } l ((ofOptions options).build config).2.tap := by
  have connected := Board.ofOptions_connected options
  have tidy := Board.ofOptions_isTidy options
  have fresh : IsFresh [] [] { config } := ⟨rfl, by simp, by simp⟩
  rcases config with ⟨tracerName, bridge, watchAll⟩
  cases watchAll with
  | true => exact ⟨{}, rfl, rfl, rfl, connected, tidy, rfl, nofun, by simp, nofun, fun _ => .inr fresh⟩
  | false => exact ⟨{}, rfl, rfl, rfl, connected, tidy, rfl, nofun, by simp, nofun, fun _ => .inr fresh⟩

theorem Converse.inv (h : Converse config options commands events rig) :
    ∃ a l, rig.agent? = some a ∧ rig.loop? = some l ∧ Inv commands events a l rig.tap := by
  induction h with
  | start =>
    obtain ⟨l, h⟩ := inv_start config options
    exact ⟨_, l, h⟩
  | @apply commands events rig c _ stays ih =>
    obtain ⟨a, l, agent, loop, inv⟩ := ih
    rw [apply_eq]
    have listening : rig.listening = true := by
      unfold listening
      rw [loop]
      rfl
    refine ⟨a, l.send (Console.apply true c rig.memory).2.outbox, agent, ?_, ?_⟩
    · rw [listening, loop]
      rfl
    · rw [listening]
      exact inv.apply stays
  | @deliver commands events rig a l e rest _ agent loop waits ih =>
    obtain ⟨a', l', agent', loop', inv⟩ := ih
    obtain rfl := Option.some.inj (agent.symm.trans agent')
    obtain rfl := Option.some.inj (loop.symm.trans loop')
    obtain ⟨l', queue, eq⟩ := dispatch_eq a { l with pending := rest } e rig rfl
    rw [eq]
    exact ⟨_, l', rfl, rfl, inv.deliver waits rfl queue⟩

theorem greeting_converges (h : Converse config options commands events rig) (loop : rig.loop? = some l)
    (idle : l.pending = []) (told : .initialized ∈ events ∨ ∃ name, .option Topic.name.key name ∈ commands) :
    ∃ a, rig.agent? = some a ∧ rig.memory.GreetedBy a := by
  obtain ⟨a, l', agent, loop', inv⟩ := h.inv
  obtain rfl := Option.some.inj (loop.symm.trans loop')
  refine ⟨a, agent, ?_⟩
  have unnamed : Event.lastName? l.pending = none := by
    rw [idle]
    rfl
  rcases inv.settled unnamed with greeted | ⟨-, silent, other⟩
  · exact greeted
  · rcases told with first | ⟨name, named⟩
    · exact absurd first silent
    · exact absurd named (other name)

theorem greeting_converges_on_name :
    ∃ rig l, Converse {} [] [.init, .option "name" "Ann"] [.initialized, .option "name" "Ann"] rig ∧
      rig.loop? = some l ∧ l.pending = [] ∧ ∃ a, rig.agent? = some a ∧ rig.memory.GreetedBy a :=
  have fresh : Converse {} [] [] [] _ := .start
  have asked := (fresh.apply .init nofun).apply (.option "name" "Ann") nofun
  have told := (asked.deliver rfl rfl rfl).deliver rfl rfl rfl
  ⟨_, _, told, rfl, rfl, greeting_converges told rfl rfl (.inl (by simp))⟩

end Rig

end MacAgent
