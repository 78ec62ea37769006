import MacAgent.Agent.Host
import MacAgent.Proofs.Agent.Paired
import MacAgent.Proofs.Memory.Notices
import MacAgent.Proofs.Memory.Sentinel

/-! # What an agent changes in memory

A tally counts the requests that changed the table of a plane in memory. On a plane that refuses nothing an
agent handles every event without a fault, and of each change that it makes there is one notice, if the
table is watched, and none otherwise. -/

namespace MacAgent

/-- A plane in memory, with the number of requests that have changed its table. -/
structure Tally where
  memory : Memory
  changes : Nat := 0

namespace Tally

def answer (r : Request) (s : Tally) : Except Fault r.Answer × Tally :=
  let (answer, memory) := s.memory.answer r
  let change := if memory.table.entries = s.memory.table.entries then 0 else 1
  (answer, { memory, changes := s.changes + change })

def plane : Plane Tally where
  answer := answer

theorem answer_of_same {r : Request} {s : Tally} {answered : Except Fault r.Answer} {m : Memory}
    (run : s.memory.answer r = (answered, m)) (same : m.table.entries = s.memory.table.entries) :
    plane.answer r s = (answered, { s with memory := m }) := by
  show answer r s = _
  unfold answer
  rw [run]
  dsimp only
  rw [if_pos same]
  rfl

end Tally

/-- How many requests change the table while an event is handled. -/
def Agent.changes (e : Event) (s : AgentState Memory) : Nat :=
  ((Agent.handle Tally.plane e).run.run { agent := s.agent, plane := { memory := s.plane } }).2.plane.changes

namespace Event

/-- The notices of so many changes of a table: one of each if the table is watched, and none otherwise. -/
structure NoticesOf (watched : Bool) (changes : Nat) (notices : List Event) : Prop where
  all : ∀ e ∈ notices, e.IsNotice
  length : notices.length = if watched then changes else 0

namespace NoticesOf

variable {watched : Bool} {i j : Nat} {notices notices' : List Event}

theorem nil : NoticesOf watched 0 [] := ⟨by simp, by simp⟩

theorem append (h : NoticesOf watched i notices) (h' : NoticesOf watched j notices') :
    NoticesOf watched (i + j) (notices ++ notices') := by
  refine ⟨fun e member => (List.mem_append.mp member).elim (h.all e) (h'.all e), ?_⟩
  rw [List.length_append, h.length, h'.length]
  split <;> rfl

theorem countP (h : NoticesOf watched i notices) :
    notices.countP (·.IsNotice) = if watched then i else 0 := (countP_isNotice h.all).trans h.length

end NoticesOf

end Event

namespace Memory

variable {m m' : Memory} {r : Request} {changes : Nat}

/-! ### Requests that are not refused -/

/-- The plane refuses no request that installs nothing unusable, and its table has distinct keys. -/
structure IsReady (m : Memory) : Prop where
  connected : m.board.connected = true
  isOpen : m.table.IsOpen
  distinct : m.table.keys.Nodup

theorem exists_answer_ok (ready : m.IsReady) (usable : ∀ e, r = .install e → Vlan.Usable e.key.vlan) :
    ∃ a m', m.answer r = (.ok a, m') := by
  rcases run : m.answer r with ⟨fault | a, m'⟩
  · cases (answer_error run).1 with
    | disconnected _ cut =>
      have reached : m.reaches r = true := by
        cases r with
        | option | optionValues | status | publish | acknowledge => exact ready.connected
        | keys | lookup | install | delete | watch => exact ready.isOpen.connected
      rw [reached] at cut
      cases cut
    | invalidEntry e _ reserved => exact absurd (usable e rfl) reserved
    | rejected _ _ locked =>
      rw [ready.isOpen.unlocked] at locked
      cases locked
  · exact ⟨a, m', rfl⟩

theorem answer_isReady (ready : m.IsReady) (r : Request) : (m.answer r).2.IsReady where
  connected := ((heeds_frame fun _ => True).answer r trivial m).connected.trans ready.connected
  isOpen := show (m.perform (.ask r)).table.IsOpen from perform_isOpen ready.isOpen trivial
  distinct := perform_distinct ready.distinct (.ask r)

theorem answer_acks (m : Memory) (task : r.IsTask) : (m.answer r).2.board.acks = m.board.acks := by
  by_cases reached : m.reaches r
  · rw [answer_of_reaches reached]
    cases r with
    | install e => exact congrArg Board.acks (m.updateTable_board (m.table.install e))
    | delete k => exact congrArg Board.acks (m.updateTable_board (m.table.delete k))
    | acknowledge | watch => exact task.elim
    | option | optionValues | status | publish | keys | lookup => rfl
  · rw [answer_of_not_reaches reached]

/-! ### Changes and their notices -/

/-- On the way from `m` to `m'` the table changed so many times, and as many notices were sent if somebody
watches it; nothing was refused or acknowledged. -/
structure Advances (m : Memory) (changes : Nat) (m' : Memory) : Prop where
  ready : m'.IsReady
  acks : m'.board.acks = m.board.acks
  watching : m'.table.watching = m.table.watching
  sent : ∃ notices, m'.outbox = m.outbox ++ notices ∧ Event.NoticesOf m.table.watching changes notices

theorem IsReady.advances (ready : m.IsReady) : m.Advances 0 m :=
  ⟨ready, rfl, rfl, [], (List.append_nil _).symm, .nil⟩

/-- A change is told by one notice if the table is watched. -/
theorem Alters.sent (h : m.Alters m') (frame : m.Frame m') :
    ∃ notices, m'.outbox = m.outbox ++ notices ∧ Event.NoticesOf m.table.watching
      (if m'.table.entries = m.table.entries then 0 else 1) notices := by
  obtain ⟨notices, outbox, isNotice⟩ := frame.outbox
  refine ⟨notices, outbox, isNotice, ?_⟩
  obtain ⟨event?, ⟨-, told⟩, outbox'⟩ := h
  obtain rfl : notices = event?.toList := List.append_cancel_left (outbox.symm.trans outbox')
  rcases told with ⟨same, rfl⟩ | ⟨e, -, changed, rfl⟩
  · simp [same]
  · unfold Table.announce
    rw [if_neg changed]
    split <;> rfl

theorem Advances.answer (h : m.Advances changes m') (task : r.IsTask) :
    m.Advances (changes + if (m'.answer r).2.table.entries = m'.table.entries then 0 else 1)
      (m'.answer r).2 := by
  have alters : m'.Alters (m'.answer r).2 := by
    refine answer_alters h.ready.distinct ?_
    rintro on rfl
    exact task.elim
  obtain ⟨notices, outbox, told⟩ := h.sent
  obtain ⟨notices', outbox', told'⟩ := alters.sent ((heeds_frame fun _ => True).answer r trivial m')
  rw [h.watching] at told'
  refine ⟨answer_isReady h.ready r, (answer_acks m' task).trans h.acks, alters.watching.trans h.watching,
    notices ++ notices', ?_, told.append told'⟩
  rw [outbox', outbox, List.append_assoc]

/-- A tally and the plane that it keeps count of, some time after `m`. -/
def Counts (m : Memory) (s : Tally) (m' : Memory) : Prop := s.memory = m' ∧ m.Advances s.changes m'

theorem tally_pairedOn (m : Memory) : Tally.plane.PairedOn Request.IsSafeTask (Counts m) plane where
  call := by
    rintro r ⟨task, usable⟩ s m' ⟨rfl, advances⟩
    obtain ⟨a, m'', run⟩ := exists_answer_ok advances.ready usable
    have answered : (s.memory.answer r).1 = .ok a := congrArg Prod.fst run
    exact ⟨a, _, _, Prod.ext answered rfl, Prod.ext answered rfl, rfl, advances.answer task⟩
  still _ _ _ := rfl
  still' _ _ _ := rfl

end Memory

namespace Agent

variable {s s' : AgentState Memory} {e : Event} {changes : Nat}

/-- What handling an event comes to on a plane that is ready. -/
structure Handles (e : Event) (s : AgentState Memory) (changes : Nat) (s' : AgentState Memory) : Prop where
  ready : s'.plane.IsReady
  watching : s'.plane.table.watching = s.plane.table.watching
  /-- The events sent are the notices of the changes. -/
  sent : ∃ notices, s'.plane.outbox = s.plane.outbox ++ notices ∧
    Event.NoticesOf s.plane.table.watching changes notices
  observed : s'.agent.observed = s.agent.observed + if e.IsNotice then 1 else 0
  /-- Being disabled, and nothing else, takes the agent down. -/
  acks : s'.plane.board.acks = s.plane.board.acks + if e = .enabled false then 1 else 0
  phase : s'.agent.phase = .disabled ↔ e = .enabled false

theorem Handles.of_advances (h : s.plane.Advances changes s'.plane) (notice : ¬e.IsNotice)
    (other : e ≠ .enabled false) (observed : s'.agent.observed = s.agent.observed)
    (phase : s'.agent.phase ≠ .disabled) : Handles e s changes s' where
  ready := h.ready
  watching := h.watching
  sent := h.sent
  observed := by rw [observed, if_neg notice]; rfl
  acks := by rw [h.acks, if_neg other]; rfl
  phase := ⟨(absurd · phase), (absurd · other)⟩

/-- Two computations that are paired from `s` on say how an event is handled that is neither a notice nor
disables the agent. -/
theorem handles_of_paired (ready : s.plane.IsReady) (notice : ¬e.IsNotice) (other : e ≠ .enabled false)
    (up : s.agent.phase ≠ .disabled)
    (paired : Paired (SameAgent (fun a => a.observed = s.agent.observed ∧ a.phase ≠ .disabled) s.plane.Counts)
      (respond Tally.plane e) (respond Memory.plane e)) :
    ∃ s', (handle Memory.plane e).run.run s = (.ok (), s') ∧ Handles e s (Agent.changes e s) s' := by
  -- The tally counts from here, which is how `Agent.changes` counts.
  let start : AgentState Tally := { agent := s.agent, plane := { memory := s.plane } }
  obtain ⟨_, t, s', tallied, run, agent, ⟨observed, phase⟩, -, advances⟩ :=
    paired start s ⟨rfl, ⟨rfl, up⟩, rfl, ready.advances⟩
  have changes : Agent.changes e s = t.plane.changes :=
    congrArg (·.2.plane.changes) ((handle_of_working Tally.plane (s := start) up e).trans tallied)
  refine ⟨s', (handle_of_working _ up e).trans run, ?_⟩
  rw [changes]
  exact .of_advances advances notice other (agent ▸ observed) (agent ▸ phase)

theorem run_shutDown {σ : Type} {plane : Plane σ} {s : AgentState σ} {p p' : σ}
    (farewell : plane.answer (.publish StatusKey.greeting Greeting.farewell) s.plane = (.ok (), p))
    (acknowledged : plane.answer (.acknowledge true) p = (.ok (), p')) :
    (shutDown plane).run.run s = (.ok (), { agent := { s.agent with phase := .disabled }, plane := p' }) := by
  have first : (onPlane (plane.publishGreeting Greeting.farewell)).run.run s = (.ok (), { s with plane := p }) :=
    run_onPlane farewell
  have second : (onPlane (plane.acknowledge true)).run.run { s with plane := p } =
      (.ok (), { s with plane := p' }) := run_onPlane acknowledged
  exact (run_bind_ok first).trans (run_bind_ok second)

/-- Being disabled says farewell and acknowledges the shutdown, and leaves the table alone. -/
theorem handles_shutDown (ready : s.plane.IsReady) (up : s.agent.phase ≠ .disabled) :
    ∃ s', (handle Memory.plane (.enabled false)).run.run s = (.ok (), s') ∧
      Handles (.enabled false) s (Agent.changes (.enabled false) s) s' := by
  have farewell := Memory.answer_of_reaches (r := .publish StatusKey.greeting Greeting.farewell) ready.connected
  have acknowledged := Memory.answer_of_reaches (r := .acknowledge true)
    (m := { s.plane with board := s.plane.board.publish StatusKey.greeting Greeting.farewell }) ready.connected
  have run := (handle_of_working Memory.plane up (.enabled false)).trans (run_shutDown farewell acknowledged)
  let start : AgentState Tally := { agent := s.agent, plane := { memory := s.plane } }
  have tallied := (handle_of_working Tally.plane (s := start) up (.enabled false)).trans
    (run_shutDown (Tally.answer_of_same farewell rfl) (Tally.answer_of_same acknowledged rfl))
  rw [show Agent.changes (.enabled false) s = 0 from congrArg (·.2.plane.changes) tallied]
  exact ⟨_, run, ⟨ready.connected, ready.isOpen, ready.distinct⟩, rfl, ready.advances.sent, rfl, rfl,
    fun _ => rfl, fun _ => rfl⟩

theorem handles_notice (ready : s.plane.IsReady) (up : s.agent.phase ≠ .disabled) (told : e.IsNotice) :
    ∃ s', (handle Memory.plane e).run.run s = (.ok (), s') ∧ Handles e s (Agent.changes e s) s' := by
  have changes : Agent.changes e s = 0 := by
    unfold Agent.changes
    rw [handle_notice _ told]
  have other : e ≠ .enabled false := by
    rintro rfl
    cases told
  rw [changes]
  refine ⟨_, handle_notice _ told s, ready, rfl, ready.advances.sent, ?_, ?_, (absurd · up), (absurd · other)⟩
  · rw [if_pos told]
  · rw [if_neg other]
    rfl

/-- An agent that is not disabled handles every event on a plane that is ready. -/
theorem handle_handles (ready : s.plane.IsReady) (up : s.agent.phase ≠ .disabled) (e : Event) :
    ∃ s', (handle Memory.plane e).run.run s = (.ok (), s') ∧ Handles e s (Agent.changes e s) s' := by
  have paired := Memory.tally_pairedOn s.plane
  have work (other : ¬e.IsNotice ∧ e ≠ .enabled false) := handles_of_paired ready other.1 other.2 up
  cases e with
  | initialized =>
    exact work (of_decide_eq_true rfl)
      (paired_start paired (fun _ h => ⟨h.1, of_decide_eq_true rfl⟩) (fun _ _ => id) fun _ _ => id)
  | enabled on =>
    cases on with
    | true => exact work (of_decide_eq_true rfl) (.pure ())
    | false => exact handles_shutDown ready up
  | option key value =>
    exact work (of_decide_eq_true rfl) (paired_handleOption paired (fun _ _ => id) (fun _ _ => id) key value)
  | entrySet entry => exact handles_notice ready up (.entrySet entry)
  | entryDeleted key => exact handles_notice ready up (.entryDeleted key)

end Agent

end MacAgent
