import MacAgent.Console.Basic
import MacAgent.Proofs.Agent.Tally
import MacAgent.Proofs.Console.WellFormed

/-! # What the console applies

On a plane that refuses nothing, the console applies every command up to the one that ends its input. A
command for the agent is sent as one event. A command for the table makes at most one change, of which there
is one notice if the table is watched. -/

namespace MacAgent

namespace Command

/-- The event that a command for the agent is sent as. -/
def event? : Command → Option Event
  | init => some .initialized
  | enable => some (.enabled true)
  | disable => some (.enabled false)
  | option key value => some (.option key value)
  | install _ | delete _ | exit => none

theorem not_isNotice_of_event? {c : Command} {e : Event} (h : c.event? = some e) : ¬e.IsNotice := by
  cases c with
  | init | enable | disable | option =>
    cases h
    exact of_decide_eq_false rfl
  | install | delete | exit => cases h

end Command

namespace Line

/-- The command of a line. -/
def command? : Line → Option Command
  | .text words => Console.request? words
  | .unreadable => none

theorem command?_usable {line : Line} {e : Entry} (h : line.command? = some (.install e)) :
    Vlan.Usable e.key.vlan := by
  cases line with
  | unreadable => cases h
  | text words =>
    have asked : Console.request? words = some (.install e) := h
    unfold Console.request? at asked
    split at asked
    · cases asked
    · cases parsed : Command.parse words with
      | error fault =>
        rw [parsed] at asked
        cases asked
      | ok c =>
        rw [parsed] at asked
        obtain rfl := Option.some.inj asked
        exact (Command.wellFormed_of_parse parsed).1

end Line

namespace Console

/-- The commands of an input, up to the line that ends it. -/
def commands : List Line → List Command
  | [] => []
  | .unreadable :: _ => []
  | .text text :: rest =>
    match request? text with
    | none => commands rest
    | some .exit => []
    | some c => c :: commands rest

/-- What it comes to that a command is applied. -/
structure Applies (c : Command) (m m' : Memory) : Prop where
  ready : m'.IsReady
  acks : m'.board.acks = m.board.acks
  watching : m'.table.watching = m.table.watching
  sent : ∃ notices, m'.outbox = m.outbox ++ (c.event?.toList ++ notices) ∧
    Event.NoticesOf m.table.watching (if m'.table.entries = m.table.entries then 0 else 1) notices

variable {m : Memory}

theorem applies_of_task {r : Request} {c : Command} (ready : m.IsReady) (task : r.IsTask)
    (own : c.event? = none) : Applies c m (m.answer r).2 := by
  have advances := ready.advances.answer task
  rw [Nat.zero_add] at advances
  refine ⟨advances.ready, advances.acks, advances.watching, ?_⟩
  rw [own]
  exact advances.sent

theorem applies_of_send {e : Event} {c : Command} {m' : Memory} (ready : m'.IsReady)
    (table : m'.table = m.table) (acks : m'.board.acks = m.board.acks) (outbox : m'.outbox = m.outbox)
    (own : c.event? = some e) : Applies c m (m'.send [e]) where
  ready := ⟨ready.connected, ready.isOpen, ready.distinct⟩
  acks := acks
  watching := congrArg Table.watching table
  sent := by
    refine ⟨[], ?_, ?_⟩
    · rw [own]
      exact congrArg (· ++ [e]) outbox
    · rw [if_pos (congrArg Table.entries table : (m'.send [e]).table.entries = m.table.entries)]
      exact .nil

/-- A command other than the one to leave is applied to a plane that is ready. -/
theorem apply_applies {c : Command} (ready : m.IsReady) (usable : ∀ e, c = .install e → Vlan.Usable e.key.vlan)
    (stays : c ≠ .exit) : ∃ m', apply true c m = (.ok .proceed, m') ∧ Applies c m m' := by
  cases c with
  | init => exact ⟨_, rfl, applies_of_send ready rfl rfl rfl rfl⟩
  | enable => exact ⟨_, rfl, applies_of_send ready rfl rfl rfl rfl⟩
  | disable => exact ⟨_, rfl, applies_of_send ready rfl rfl rfl rfl⟩
  | option key value =>
    exact ⟨_, rfl, applies_of_send ⟨ready.connected, ready.isOpen, ready.distinct⟩ rfl rfl rfl rfl⟩
  | install e =>
    obtain ⟨_, m', run⟩ := Memory.exists_answer_ok (r := .install e) ready
      fun e' same => usable e' (congrArg Command.install (Request.install.inj same))
    refine ⟨m', congrArg proceedAfter run, ?_⟩
    have applies := applies_of_task (r := .install e) (c := .install e) ready trivial rfl
    rwa [run] at applies
  | delete k =>
    obtain ⟨_, m', run⟩ := Memory.exists_answer_ok (r := .delete k) ready nofun
    refine ⟨m', congrArg proceedAfter run, ?_⟩
    have applies := applies_of_task (r := .delete k) (c := .delete k) ready trivial rfl
    rwa [run] at applies
  | exit => exact absurd rfl stays

/-- What the console does with a line, given that of the commands from there on it has still to apply. -/
theorem step_cases (ready : m.IsReady) (line : Line) (rest : List Line) :
    (step true line m = (.ended, m) ∧ commands (line :: rest) = []) ∨
    (step true line m = (.passed, m) ∧ commands (line :: rest) = commands rest) ∨
    ∃ c m', step true line m = (.applied, m') ∧ line.command? = some c ∧
      commands (line :: rest) = c :: commands rest ∧ Applies c m m' := by
  cases line with
  | unreadable => exact .inl ⟨rfl, rfl⟩
  | text text =>
    cases asked : request? text with
    | none =>
      refine .inr (.inl ⟨?_, ?_⟩)
      · simp only [step, asked]
      · simp only [commands, asked]
    | some c =>
      by_cases leaves : c = .exit
      · subst leaves
        refine .inl ⟨?_, ?_⟩
        · simp only [step, asked, apply]
        · simp only [commands, asked]
      · have usable (e : Entry) (same : c = .install e) : Vlan.Usable e.key.vlan := by
          have asks : (Line.text text).command? = some (.install e) := asked.trans (congrArg some same)
          exact Line.command?_usable asks
        obtain ⟨m', run, applies⟩ := apply_applies ready usable leaves
        refine .inr (.inr ⟨c, m', ?_, asked, ?_, applies⟩)
        · simp only [step, asked, run]
        · cases c with
          | exit => exact absurd rfl leaves
          | init | enable | disable | option | install | delete => simp only [commands, asked]

end Console

end MacAgent
