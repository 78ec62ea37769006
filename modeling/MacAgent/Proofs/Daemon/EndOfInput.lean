import MacAgent.Proofs.Agent.Indifference
import MacAgent.Proofs.Daemon.Ledger

/-! # No command is lost at the end of the input

However the turns of the console and the loop come, the daemon starts and stops without a fault. If the agent
has not been disabled by then, every command of the input has been applied, all that the queue took up has
been delivered, and the counters tell how much it was. Otherwise the agent was disabled last. -/

namespace MacAgent

namespace Command

/-- Whether a command starts the agent, enables it, or tells it of an option. -/
def isStart : Command → Bool
  | init | enable | option .. => true
  | disable | install _ | delete _ | exit => false

end Command

namespace Daemon

variable {config : Config} {input : List Line} {d d' : Daemon} {g g' : Ledger} {e : Event} {rest : List Event}

/-! ### The start -/

theorem ofOptions_acks (options : List (String × String)) : (Board.ofOptions options).acks = 0 :=
  List.foldlRecOn (motive := fun b : Board => b.acks = 0) options _ rfl fun _ h _ _ => h

theorem run_build_memory (config : Config) (board : Board) :
    (Agent.build Memory.plane config).run.run { board } =
      (.ok { config }, { board, table := { watching := config.watchAll } }) := by
  rw [Agent.run_build]
  split
  · rename_i watch
    rw [watch]
    rfl
  · rename_i idle
    rw [Bool.eq_false_iff.mpr idle]

theorem start_accounted (config : Config) (name? : Option String) (input : List Line) :
    ∃ d, start config name? input = .ok d ∧ Accounted config input d {} := by
  have connected := Board.ofOptions_connected (name?.toList.map fun name => (Topic.name.key, name))
  have acks := ofOptions_acks (name?.toList.map fun name => (Topic.name.key, name))
  unfold start
  dsimp only
  generalize Board.ofOptions (name?.toList.map fun name => (Topic.name.key, name)) = board at connected acks ⊢
  rw [run_build_memory]
  exact ⟨_, rfl,
    { ready := ⟨connected, ⟨rfl, rfl⟩, .nil⟩
      outbox := rfl
      watching := rfl
      fifo := rfl
      dispatched := rfl
      failed := rfl
      observed := rfl
      told := rfl
      notices := by
        show 0 = _
        split <;> rfl
      commands := rfl
      applied := rfl
      down := by
        show decide (0 < board.acks) = true ↔ _
        simp [acks]
      disabled := by
        show Phase.uninitialized = .disabled ↔ _
        simp
      last := nofun }⟩

/-! ### Any turns -/

theorem follow_append {turns more : List Turn} (h : follow turns d g = .ok (d', g')) :
    follow (turns ++ more) d g = follow more d' g' := by
  induction turns generalizing d g with
  | nil =>
    cases h
    rfl
  | cons turn rest ih =>
    cases taken : d.take turn with
    | error fault =>
      rw [follow, taken] at h
      cases h
    | ok next =>
      rw [follow, taken] at h
      rw [List.cons_append, follow, taken]
      exact ih h

theorem Accounted.take (h : Accounted config input d g) (turn : Turn) :
    ∃ d', d.take turn = .ok d' ∧ Accounted config input d' (d.enter g turn) := by
  cases turn with
  | read => exact ⟨d.read, rfl, h.read⟩
  | deliver => exact h.deliver

theorem Accounted.follow (h : Accounted config input d g) (turns : List Turn) :
    ∃ d' g', Daemon.follow turns d g = .ok (d', g') ∧ turns.foldlM Daemon.take d = .ok d' ∧
      Accounted config input d' g' := by
  induction turns generalizing d g with
  | nil => exact ⟨d, g, rfl, rfl, h⟩
  | cons turn rest ih =>
    obtain ⟨next, taken, h⟩ := h.take turn
    obtain ⟨d', g', followed, folded, h⟩ := ih h
    refine ⟨d', g', ?_, ?_, h⟩
    · rw [Daemon.follow, taken]
      exact followed
    · rw [List.foldlM_cons, taken]
      exact folded

/-! ### The rest of the input -/

/-- The console comes to its end, or leaves fewer lines. -/
theorem read_closes (d : Daemon) : d.read.closed = true ∨ d.read.input.length < d.input.length := by
  unfold Daemon.read
  split
  · rename_i closed
    exact .inl closed
  · split
    · exact .inl rfl
    · rename_i lines
      rw [lines]
      split
      · exact .inl rfl
      · exact .inr (Nat.lt_succ_self _)
      · exact .inr (Nat.lt_succ_self _)

theorem read_of_closed (closed : d.closed = true) : d.read = d := by
  rw [Daemon.read, if_pos closed]

/-- So many turns of the console in a row. -/
theorem follow_reads (n : Nat) (d : Daemon) (g : Ledger) :
    ∃ g', Daemon.follow (List.replicate n .read) d g =
        .ok ((List.replicate n ()).foldl (fun d () => d.read) d, g') ∧
      (d.input.length < n ∨ d.closed = true → ((List.replicate n ()).foldl (fun d () => d.read) d).closed = true) := by
  induction n generalizing d g with
  | zero => exact ⟨g, rfl, fun h => h.resolve_left (Nat.not_lt_zero _)⟩
  | succ n ih =>
    obtain ⟨g', followed, closes⟩ := ih d.read (d.enter g .read)
    refine ⟨g', followed, fun h => closes ?_⟩
    rcases h with enough | closed
    · rcases read_closes d with closed | fewer
      · exact .inr closed
      · exact .inl (fewer.trans_le (Nat.le_of_lt_succ enough))
    · rw [read_of_closed closed]
      exact .inr closed

/-! ### What waits -/

/-- A turn of the loop that finds an event is its delivery. -/
theorem dispatch_of_deliver (running : d.isDown = false) (waits : d.loop.pending = e :: rest)
    (delivered : d.deliver = .ok d') :
    Loop.dispatch Agent.memoryHost e d.state { d.loop with pending := rest } = (.ok (), d'.state, d'.loop) ∧
      d'.input = d.input ∧ d'.closed = d.closed ∧ d'.applied = d.applied := by
  unfold Daemon.deliver at delivered
  rw [running, waits] at delivered
  dsimp only at delivered
  rcases run : Loop.dispatch Agent.memoryHost e d.state { d.loop with pending := rest } with ⟨fault | _, s, l⟩
  · rw [show AgentState.mk d.agent d.memory = d.state from rfl, run] at delivered
    cases delivered
  · rw [show AgentState.mk d.agent d.memory = d.state from rfl, run] at delivered
    cases delivered
    exact ⟨rfl, rfl, rfl, rfl⟩

/-- A drain is as many turns of the loop as it makes deliveries. -/
theorem Accounted.follow_deliveries (h : Accounted config input d g) (bound : Nat) :
    let p := d.loop.drain Agent.memoryHost bound d.state
    ∃ n g', Daemon.follow (List.replicate n .deliver) d g =
        .ok ({ d with agent := p.host.agent, memory := p.host.plane, loop := p.loop }, g') ∧
      (∀ fault, p.stop ≠ .fatal fault) ∧
      (p.stop ≠ .bound → Agent.memoryHost.isDown p.host = true ∨ p.loop.pending = []) := by
  generalize loop : d.loop = l
  generalize state : d.state = s
  -- The ledger must hold again after each delivery, since it says that none of them fails.
  induction bound, l, s using Loop.drain_induction Agent.memoryHost generalizing d g with
  | down bound l s down =>
    subst loop state
    rw [Loop.drain_of_down down]
    exact ⟨0, g, rfl, nofun, fun _ => .inl down⟩
  | idle bound l s up empty =>
    subst loop state
    rw [Loop.drain_of_empty up empty]
    exact ⟨0, g, rfl, nofun, fun _ => .inr empty⟩
  | cut l s e rest up waits =>
    subst loop state
    rw [Loop.drain_zero up waits]
    exact ⟨0, g, rfl, nofun, absurd rfl⟩
  | fatal bound l s e rest fault up waits _ _ run =>
    subst loop state
    obtain ⟨d', delivered, -⟩ := h.deliver
    rw [(dispatch_of_deliver up waits delivered).1] at run
    cases run
  | delivered bound l s e rest up waits _ run ih =>
    subst loop state
    obtain ⟨d', delivered, h⟩ := h.deliver
    obtain ⟨run', input, closed, applied⟩ := dispatch_of_deliver up waits delivered
    obtain ⟨state, loop⟩ := Prod.mk.inj (Prod.mk.inj (run'.symm.trans run)).2
    obtain ⟨n, g', followed, mild, ends⟩ := ih h loop state
    rw [Loop.drain_of_dispatch_ok up waits run]
    refine ⟨n + 1, g', ?_, mild, ends⟩
    rw [input, closed, applied] at followed
    rw [List.replicate_succ, Daemon.follow, show d.take .deliver = .ok d' from delivered]
    exact followed

/-- A drain delivers all that waits, unless the agent is disabled. -/
theorem Accounted.drain (h : Accounted config input d g) :
    ∃ n d' g', d.drain = .ok d' ∧ Daemon.follow (List.replicate n .deliver) d g = .ok (d', g') ∧
      Accounted config input d' g' ∧ d'.closed = d.closed ∧ (d'.isDown = true ∨ d'.loop.pending = []) := by
  obtain ⟨n, g', followed, mild, ends⟩ :=
    h.follow_deliveries (d.memory.deliveryBound d.loop.pending.length)
  have settles : (d.loop.drain Agent.memoryHost (d.memory.deliveryBound d.loop.pending.length) d.state).stop ≠ .bound :=
    Agent.drain_settles Memory.plane_holds h.outbox (Agent.potential_le_deliveryBound d.loop.pending d.memory)
  obtain ⟨d', g'', followed', -, accounted⟩ := h.follow (List.replicate n .deliver)
  rw [followed] at followed'
  cases followed'
  refine ⟨n, _, g', ?_, followed, accounted, rfl, ends settles⟩
  unfold Daemon.drain
  dsimp only
  rw [show AgentState.mk d.agent d.memory = d.state from rfl]
  split
  · rename_i fault stopped
    exact absurd stopped (mild fault)
  · rfl

/-! ### The end -/

/-- What can be relied on when the daemon stops. -/
structure LosesNothing (config : Config) (input : List Line) (d : Daemon) (g : Ledger) : Prop where
  /-- If the agent was not disabled, all is done and counted. -/
  finished : .enabled false ∉ g.delivered →
    g.applied = Console.commands input ∧ g.delivered = g.queued ∧ d.loop.pending = [] ∧
      d.loop.dispatched = 1 + g.applied.countP (·.isStart) + g.queued.countP (·.IsNotice) ∧
      d.agent.observed = (if config.watchAll then g.changes else 0) ∧ d.loop.failed = 0
  /-- If it was, it was disabled last. -/
  disabled : .enabled false ∈ g.delivered →
    g.delivered.getLast? = some (.enabled false) ∧ d.agent.phase = .disabled

/-- Commands that were not told to disable the agent are told to start it, to enable it, or of an option. -/
theorem length_event? {commands : List Command} (h : .enabled false ∉ commands.filterMap Command.event?) :
    (commands.filterMap Command.event?).length = commands.countP (·.isStart) := by
  induction commands with
  | nil => rfl
  | cons c rest ih =>
    cases c with
    | disable => exact absurd List.mem_cons_self h
    | init | enable | option =>
      have later := ih fun member => h (List.mem_cons_of_mem _ member)
      rw [List.countP_cons_of_pos rfl, ← later]
      rfl
    | install | delete | exit =>
      rw [List.countP_cons_of_neg Bool.false_ne_true]
      exact ih h

theorem Accounted.losesNothing (h : Accounted config input d g)
    (finished : .enabled false ∉ g.delivered → d.unread = [] ∧ d.loop.pending = []) :
    LosesNothing config input d g where
  finished untold := by
    obtain ⟨read, empty⟩ := finished untold
    have commands := h.commands
    have fifo := h.fifo
    -- All has been read and delivered, so the ledger's two halves are equal.
    rw [read, List.append_nil] at commands
    rw [empty, List.append_nil] at fifo
    refine ⟨commands, fifo, empty, ?_, ?_, h.failed⟩
    · have told : .enabled false ∉ g.applied.filterMap Command.event? := by
        intro member
        have queued : .enabled false ∈ g.queued.filter (¬·.IsNotice) := by
          rw [h.told]
          exact List.mem_cons_of_mem _ member
        exact untold (fifo ▸ List.mem_of_mem_filter queued)
      have other : g.queued.countP (¬·.IsNotice) = 1 + g.applied.countP (·.isStart) := by
        rw [List.countP_eq_length_filter, h.told, List.length_cons, length_event? told, Nat.add_comm]
      rw [h.dispatched, fifo, List.length_eq_countP_add_countP (fun e : Event => decide e.IsNotice), Nat.add_comm,
        ← other]
      simp
    · rw [h.observed, fifo, h.notices]
  disabled told := by
    obtain ⟨before, last⟩ := h.last told
    refine ⟨?_, h.disabled.mpr told⟩
    rw [last, List.getLast?_append]
    rfl

/-- The turns of the console and the loop may come in any order before the rest of the input is read and
what waits is delivered. -/
theorem loses_no_command (config : Config) (name? : Option String) (input : List Line) (turns : List Turn) :
    ∃ first last reads deliveries g, start config name? input = .ok first ∧ first.run turns = .ok last ∧
      follow (turns ++ (List.replicate reads .read ++ List.replicate deliveries .deliver)) first {} =
        .ok (last, g) ∧
      LosesNothing config input last g := by
  obtain ⟨first, started, h⟩ := start_accounted config name? input
  obtain ⟨d, g, followed, folded, h⟩ := h.follow turns
  by_cases down : d.isDown = true
  · -- Nothing more is read or delivered.
    refine ⟨first, d, 0, 0, g, started, ?_, ?_, h.losesNothing fun untold => absurd (h.down.mp down) untold⟩
    · unfold run
      rw [folded]
      exact if_pos down
    · exact (follow_append followed).trans rfl
  · -- One turn more than there are lines, for the console to find the end of the input.
    obtain ⟨g₁, read, closes⟩ := follow_reads (d.input.length + 1) d g
    have closed : d.readAll.closed = true := closes (.inl (Nat.lt_succ_self _))
    obtain ⟨d₁, g₁', read', -, h⟩ := h.follow (List.replicate (d.input.length + 1) .read)
    rw [read] at read'
    cases read'
    obtain ⟨n, last, g₂, drained, delivered, h, kept, ends⟩ := h.drain
    refine ⟨first, last, d.input.length + 1, n, g₂, started, ?_, ?_, h.losesNothing fun untold => ⟨?_, ?_⟩⟩
    · unfold run
      rw [folded]
      exact (if_neg down).trans drained
    · exact (follow_append followed).trans ((follow_append read).trans delivered)
    · rw [unread, if_pos (kept.trans closed)]
    · exact ends.resolve_left fun down => untold (h.down.mp down)

/-- Two examples installed, one entry from the console, and three deletes: six notices of nine events. -/
example :
    let outcome := do
      let d ← start {} none
        [.text "option set x", .text "mac-set 7 0000.0000.0001 Ethernet1", .text "option clear x"]
      d.run [.read, .deliver, .read, .deliver]
    outcome.toOption.map (fun d => (d.loop.dispatched, d.agent.observed, d.loop.pending)) = some (9, 6, []) := by
  decide +kernel

end Daemon

end MacAgent
