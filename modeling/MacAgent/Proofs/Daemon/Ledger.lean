import MacAgent.Daemon.Basic
import MacAgent.Proofs.Agent.Settling
import MacAgent.Proofs.Console.Applying

/-! # The ledger of a daemon

A ledger is kept of a daemon's turns: which commands the console applied, which events the queue took up and
which were delivered, and how often the table was changed, by the console or by the agent. After any turns
the queue, the counters and the agent are what the ledger says. -/

namespace MacAgent

/-- What has happened to a daemon since it was started. -/
structure Ledger where
  /-- The commands that the console has applied. -/
  applied : List Command := []
  /-- The events that the queue has taken up, the first of them at the start. -/
  queued : List Event := [.initialized]
  delivered : List Event := []
  /-- How many commands and requests have changed the table. -/
  changes : Nat := 0

namespace Daemon

/-- The agent with its plane. -/
def state (d : Daemon) : AgentState Memory := { agent := d.agent, plane := d.memory }

/-- The command that the console applies when it takes its turn. -/
def command? (d : Daemon) : Option Command :=
  if d.closed then none
  else
    match d.input with
    | [] => none
    | line :: _ => if (Console.step true line d.memory).1 = .applied then line.command? else none

/-- The ledger after another turn. -/
def enter (d : Daemon) (g : Ledger) : Turn → Ledger
  | .read =>
    { g with
      applied := g.applied ++ d.command?.toList
      queued := g.queued ++ d.read.loop.pending.drop d.loop.pending.length
      changes := g.changes + if d.read.memory.table.entries = d.memory.table.entries then 0 else 1 }
  | .deliver =>
    match d.isDown, d.loop.pending with
    | false, e :: _ =>
      { g with
        queued := g.queued ++ (Agent.memoryHost.react e d.state).raised
        delivered := g.delivered ++ [e]
        changes := g.changes + Agent.changes e d.state }
    | _, _ => g

/-- Takes the turns listed, and keeps the ledger. -/
def follow : List Turn → Daemon → Ledger → Except Fault (Daemon × Ledger)
  | [], d, g => .ok (d, g)
  | turn :: rest, d, g => do
    let next ← d.take turn
    follow rest next (d.enter g turn)

/-- The commands that the console has still to apply. -/
def unread (d : Daemon) : List Command := if d.closed then [] else Console.commands d.input

variable {config : Config} {input : List Line} {d d' : Daemon} {g g' : Ledger}

/-! ### Turns of the console -/

theorem settle_of_empty (empty : d.memory.outbox = []) : d.settle = d := by
  rcases d with ⟨agent, ⟨board, table, outbox⟩, ⟨pending, dispatched, failed⟩, input, closed, applied⟩
  obtain rfl : outbox = [] := empty
  exact congrArg (Daemon.mk agent _ ⟨·, dispatched, failed⟩ input closed applied) (List.append_nil pending)

section Line

variable {line : Line} {rest : List Line}

/-- The daemon once the console is done with a line, where `rest` is left to read. -/
def afterLine (d : Daemon) (rest : List Line) : Console.Outcome × Memory → Daemon
  | (.ended, memory) => settle { d with memory, input := rest, closed := true }
  | (.passed, memory) => settle { d with memory, input := rest }
  | (.applied, memory) => settle { d with memory, input := rest, applied := d.applied + 1 }

theorem read_line (opened : ¬d.closed = true) (lines : d.input = line :: rest) :
    d.read = d.afterLine rest (Console.step true line d.memory) := by
  rw [Daemon.read, if_neg opened, lines]
  rfl

theorem command?_line (opened : ¬d.closed = true) (lines : d.input = line :: rest) :
    d.command? = if (Console.step true line d.memory).1 = .applied then line.command? else none := by
  rw [command?, if_neg opened, lines]

theorem unread_of_open (opened : ¬d.closed = true) : d.unread = Console.commands d.input := if_neg opened

end Line

/-- What a turn of the console does to a daemon whose plane is ready and has sent nothing. -/
theorem read_cases (ready : d.memory.IsReady) (empty : d.memory.outbox = []) :
    (d.command? = none ∧ d.read.unread = d.unread ∧ ∃ input closed, d.read = { d with input, closed }) ∨
    ∃ c m' input, d.command? = some c ∧ d.unread = c :: d.read.unread ∧ Console.Applies c d.memory m' ∧
      d.read = { d with
        memory := m'.collect.2, loop := d.loop.send m'.outbox, input, applied := d.applied + 1 } := by
  by_cases opened : d.closed = true
  · have read : d.read = d := by rw [Daemon.read, if_pos opened]
    exact .inl ⟨by rw [command?, if_pos opened], by rw [read], d.input, d.closed, read⟩
  · cases lines : d.input with
    | nil =>
      have read : d.read = { d with closed := true } := by rw [Daemon.read, if_neg opened, lines]
      refine .inl ⟨?_, ?_, d.input, true, read⟩
      · rw [command?, if_neg opened, lines]
      · rw [read, unread_of_open opened, lines]
        rfl
    | cons line rest =>
      have read := read_line opened lines
      have command := command?_line opened lines
      have unread := unread_of_open opened
      rw [lines] at unread
      rcases Console.step_cases ready line rest with
        ⟨step, none⟩ | ⟨step, same⟩ | ⟨c, m', step, own, more, applies⟩
      · rw [step] at read command
        replace read : d.read = { d with input := rest, closed := true } := read.trans (settle_of_empty empty)
        refine .inl ⟨command, ?_, rest, true, read⟩
        rw [read, unread, none]
        rfl
      · rw [step] at read command
        replace read : d.read = { d with input := rest } := read.trans (settle_of_empty empty)
        refine .inl ⟨command, ?_, rest, d.closed, read⟩
        rw [read, unread, same]
        exact if_neg opened
      · rw [step] at read command
        refine .inr ⟨c, m', rest, command.trans own, ?_, applies, read⟩
        rw [read, unread, more]
        exact congrArg (c :: ·) (if_neg opened).symm

/-! ### Turns of the loop -/

theorem deliver_idle (g : Ledger) (idle : d.isDown = true ∨ d.loop.pending = []) :
    d.deliver = .ok d ∧ d.enter g .deliver = g := by
  rcases idle with down | empty
  · simp [Daemon.deliver, enter, down]
  · cases down : d.isDown <;> simp [Daemon.deliver, enter, down, empty]

/-- What a turn of the loop does to a daemon whose plane is ready, and what is entered for it. -/
theorem deliver_handles {e : Event} {rest : List Event} (ready : d.memory.IsReady) (running : d.isDown = false)
    (up : d.agent.phase ≠ .disabled) (waits : d.loop.pending = e :: rest) (g : Ledger) :
    ∃ s', Agent.Handles e d.state (Agent.changes e d.state) s' ∧
      d.deliver = .ok { d with
        agent := s'.agent, memory := s'.plane.collect.2
        loop := ⟨rest ++ s'.plane.outbox, d.loop.dispatched + 1, d.loop.failed⟩ } ∧
      d.enter g .deliver = { g with
        queued := g.queued ++ s'.plane.outbox, delivered := g.delivered ++ [e]
        changes := g.changes + Agent.changes e d.state } := by
  obtain ⟨s', run, handles⟩ := Agent.handle_handles (s := d.state) ready up e
  have react : Agent.memoryHost.react e d.state = ⟨.ok (), s'.plane.outbox, { s' with plane := s'.plane.collect.2 }⟩ :=
    Agent.react_of_run run
  have dispatched : Loop.dispatch Agent.memoryHost e d.state { d.loop with pending := rest } =
      (.ok (), { s' with plane := s'.plane.collect.2 },
        ⟨rest ++ s'.plane.outbox, d.loop.dispatched + 1, d.loop.failed⟩) := by
    unfold Loop.dispatch
    rw [react]
    rfl
  refine ⟨s', handles, ?_, ?_⟩
  · unfold Daemon.deliver
    rw [running, waits]
    dsimp only
    rw [show AgentState.mk d.agent d.memory = d.state from rfl, dispatched]
    rfl
  · simp only [enter, running, waits, react]

/-! ### What the ledger says -/

/-- The daemon is what its ledger says. -/
structure Accounted (config : Config) (input : List Line) (d : Daemon) (g : Ledger) : Prop where
  ready : d.memory.IsReady
  /-- What the plane sends, the queue takes up at once. -/
  outbox : d.memory.outbox = []
  watching : d.memory.table.watching = config.watchAll
  /-- The queue is first in, first out. -/
  fifo : g.delivered ++ d.loop.pending = g.queued
  dispatched : d.loop.dispatched = g.delivered.length
  failed : d.loop.failed = 0
  observed : d.agent.observed = g.delivered.countP (·.IsNotice)
  /-- All but the notices is what the agent was started with and what the console has told it. -/
  told : g.queued.filter (¬·.IsNotice) = .initialized :: g.applied.filterMap Command.event?
  notices : g.queued.countP (·.IsNotice) = if config.watchAll then g.changes else 0
  /-- No command is left out. -/
  commands : g.applied ++ d.unread = Console.commands input
  applied : d.applied = g.applied.length
  down : d.isDown = true ↔ .enabled false ∈ g.delivered
  disabled : d.agent.phase = .disabled ↔ .enabled false ∈ g.delivered
  /-- Nothing is delivered to an agent that has shut down. -/
  last : .enabled false ∈ g.delivered → ∃ before, g.delivered = before ++ [.enabled false]

theorem filter_event? (c : Command) :
    c.event?.toList.filter (¬·.IsNotice) = c.event?.toList ∧ c.event?.toList.countP (·.IsNotice) = 0 := by
  have other : ∀ e ∈ c.event?.toList, ¬e.IsNotice := fun e member =>
    Command.not_isNotice_of_event? (Option.mem_toList.mp member)
  refine ⟨List.filter_eq_self.mpr fun e member => ?_, List.countP_eq_zero.mpr fun e member => ?_⟩
  · simpa using other e member
  · simpa using other e member

theorem filterMap_event? (c : Command) : [c].filterMap Command.event? = c.event?.toList := by
  cases h : c.event? <;> simp [h]

namespace Accounted

theorem read (h : Accounted config input d g) : Accounted config input d.read (d.enter g .read) := by
  rcases read_cases h.ready h.outbox with
    ⟨idle, same, input', closed, read⟩ | ⟨c, m', input', command, unread, applies, read⟩
  · have ledger : d.enter g .read = g := by
      simp [enter, idle, read]
    rw [ledger]
    rw [read] at same ⊢
    exact { h with commands := (congrArg (g.applied ++ ·) same).trans h.commands }
  · have ledger : d.enter g .read =
        { applied := g.applied ++ [c], queued := g.queued ++ m'.outbox, delivered := g.delivered
          changes := g.changes + if m'.table.entries = d.memory.table.entries then 0 else 1 } := by
      simp [enter, command, read, Loop.send, Memory.collect]
    obtain ⟨notices, outbox, noticed⟩ := applies.sent
    rw [h.outbox, List.nil_append] at outbox
    have commands := h.commands
    rw [unread] at commands
    rw [ledger]
    rw [read] at commands ⊢
    exact
      { ready := ⟨applies.ready.connected, applies.ready.isOpen, applies.ready.distinct⟩
        outbox := rfl
        watching := applies.watching.trans h.watching
        fifo := by
          show g.delivered ++ (d.loop.pending ++ m'.outbox) = g.queued ++ m'.outbox
          rw [← List.append_assoc, h.fifo]
        dispatched := h.dispatched
        failed := h.failed
        observed := h.observed
        told := by
          rw [outbox, List.filter_append, List.filter_append, Event.filter_not_isNotice noticed.all,
            (filter_event? c).1, h.told, List.filterMap_append, List.append_nil, filterMap_event?]
          rfl
        notices := by
          rw [outbox, List.countP_append, List.countP_append, noticed.countP, (filter_event? c).2, h.notices,
            h.watching, Nat.zero_add]
          split <;> rfl
        commands := (List.append_assoc _ _ _).trans commands
        applied := by
          rw [h.applied, List.length_append]
          rfl
        down := by
          show decide (0 < m'.board.acks) = true ↔ _
          rw [applies.acks]
          exact h.down
        disabled := h.disabled
        last := h.last }

theorem up (h : Accounted config input d g) (up : d.isDown = false) :
    .enabled false ∉ g.delivered ∧ d.agent.phase ≠ .disabled := by
  have untold : .enabled false ∉ g.delivered := fun told => Bool.eq_false_iff.mp up (h.down.mpr told)
  exact ⟨untold, fun disabled => untold (h.disabled.mp disabled)⟩

theorem deliver (h : Accounted config input d g) :
    ∃ d', d.deliver = .ok d' ∧ Accounted config input d' (d.enter g .deliver) := by
  by_cases idle : d.isDown = true ∨ d.loop.pending = []
  · obtain ⟨stays, ledger⟩ := deliver_idle g idle
    exact ⟨d, stays, ledger.symm ▸ h⟩
  obtain ⟨running, waiting⟩ := not_or.mp idle
  replace running := Bool.eq_false_iff.mpr running
  obtain ⟨e, rest, waits⟩ := List.exists_cons_of_ne_nil waiting
  obtain ⟨untold, up⟩ := h.up running
  obtain ⟨s', handles, delivered, ledger⟩ := deliver_handles h.ready running up waits g
  obtain ⟨notices, outbox, noticed⟩ := handles.sent
  replace outbox : s'.plane.outbox = notices := outbox.trans (congrArg (· ++ notices) h.outbox)
  refine ⟨_, delivered, ?_⟩
  rw [ledger]
  -- The agent was up, so if it has been told to go down it is by this event.
  have now : .enabled false ∈ g.delivered ++ [e] ↔ e = .enabled false := by
    simp [untold, eq_comm]
  exact
    { ready := ⟨handles.ready.connected, handles.ready.isOpen, handles.ready.distinct⟩
      outbox := rfl
      watching := handles.watching.trans h.watching
      fifo := by
        rw [← h.fifo, waits]
        simp
      dispatched := by
        rw [h.dispatched, List.length_append]
        rfl
      failed := h.failed
      observed := by
        show s'.agent.observed = _
        rw [handles.observed, show d.state.agent.observed = _ from h.observed, List.countP_append,
          List.countP_singleton]
        simp only [decide_eq_true_eq]
      told := by
        rw [List.filter_append, outbox, Event.filter_not_isNotice noticed.all, h.told, List.append_nil]
      notices := by
        rw [List.countP_append, outbox, noticed.countP, h.notices,
          show d.state.plane.table.watching = config.watchAll from h.watching]
        split <;> rfl
      commands := h.commands
      applied := h.applied
      down := by
        have none : d.memory.board.acks = 0 := by simpa [isDown, Board.isShutDown] using running
        show decide (0 < s'.plane.board.acks) = true ↔ _
        rw [handles.acks, show d.state.plane.board.acks = 0 from none, now]
        by_cases disable : e = .enabled false <;> simp [disable]
      disabled := handles.phase.trans now.symm
      last := fun told => ⟨g.delivered, congrArg (g.delivered ++ [·]) (now.mp told)⟩ }

end Accounted

end Daemon

end MacAgent
