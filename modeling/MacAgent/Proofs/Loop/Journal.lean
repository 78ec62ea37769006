import MacAgent.Proofs.Loop.Deliveries

/-! # The journal of a loop

A journal tells what the queue of a loop has accepted and what was delivered from it, over any number
of sends and drains. The deliveries are a prefix of what was accepted, in the same order, and the rest
waits. This holds whatever the host does at a delivery, and wherever a drain is cut off. -/

namespace MacAgent

variable {τ : Type}

/-- A host's state, with the events that its queue has accepted and the deliveries made to it. -/
structure Logged (τ : Type) where
  state : τ
  accepted : List Event
  delivered : List (Delivery τ)

/-- The state after more deliveries, the last of which has led to `state`. -/
def Logged.note (s : Logged τ) (ds : List (Delivery τ)) (state : τ) : Logged τ where
  state := state
  accepted := s.accepted ++ ds.flatMap (·.reaction.raised)
  delivered := s.delivered ++ ds

/-- The host, with a log of its deliveries. -/
def Host.logged (host : Host τ) : Host (Logged τ) where
  react e s :=
    let r := host.react e s.state
    { result := r.result, raised := r.raised, next := s.note [⟨e, r⟩] r.next }
  isDown s := host.isDown s.state

theorem Logged.note_nil (s : Logged τ) : s.note [] s.state = s := by
  simp [note]

theorem Logged.note_note (s : Logged τ) (ds ds' : List (Delivery τ)) (state state' : τ) :
    (s.note ds state).note ds' state' = s.note (ds ++ ds') state' := by
  simp [note, List.append_assoc]

namespace Progress

/-- Progress that came after `n` other deliveries. -/
def more (n : Nat) (p : Progress τ) : Progress τ := { p with delivered := p.delivered + n }

def map {υ : Type} (f : τ → υ) (p : Progress τ) : Progress υ :=
  { stop := p.stop, delivered := p.delivered, loop := p.loop, host := f p.host }

end Progress

namespace Loop

variable {host : Host τ} {bound : Nat} {l : Loop} {ds : List (Delivery τ)}

section Equations

variable {s s' : τ} {l' : Loop} {e : Event} {rest : List Event} {fault : Fault}

theorem drain_of_down (down : host.isDown s = true) :
    drain host bound l s = { stop := .down, loop := l, host := s } := by
  rw [drain, if_pos down]

theorem drain_of_empty (up : host.isDown s = false) (empty : l.pending = []) :
    drain host bound l s = { stop := .idle, loop := l, host := s } := by
  rw [drain, if_neg (Bool.eq_false_iff.mp up), empty]

theorem drain_zero (up : host.isDown s = false) (waits : l.pending = e :: rest) :
    drain host 0 l s = { stop := .bound, loop := l, host := s } := by
  rw [drain, if_neg (Bool.eq_false_iff.mp up), waits]

theorem drain_of_dispatch_ok (up : host.isDown s = false) (waits : l.pending = e :: rest)
    (run : dispatch host e s { l with pending := rest } = (.ok (), s', l')) :
    drain host (bound + 1) l s = (drain host bound l' s').more 1 := by
  rw [drain, if_neg (Bool.eq_false_iff.mp up), waits]
  dsimp only
  rw [run]
  rfl

theorem drain_of_dispatch_error (up : host.isDown s = false) (waits : l.pending = e :: rest)
    (run : dispatch host e s { l with pending := rest } = (.error fault, s', l')) :
    drain host (bound + 1) l s = { stop := .fatal fault, loop := l', host := s' } := by
  rw [drain, if_neg (Bool.eq_false_iff.mp up), waits]
  dsimp only
  rw [run]

/-- The five ways in which a drain goes on: the host is down, nothing waits, no more deliveries may be made,
one is made and fails fatally, or one is made and the drain goes on after it. -/
theorem drain_induction (host : Host τ) {motive : Nat → Loop → τ → Prop}
    (down : ∀ bound l s, host.isDown s = true → motive bound l s)
    (idle : ∀ bound l s, host.isDown s = false → l.pending = [] → motive bound l s)
    (cut : ∀ l s e rest, host.isDown s = false → l.pending = e :: rest → motive 0 l s)
    (fatal : ∀ bound l s e rest fault, host.isDown s = false → l.pending = e :: rest → fault.isFatal = true →
      Delivery.Fails ⟨e, host.react e s⟩ fault →
      dispatch host e s { l with pending := rest } =
        (.error fault, (host.react e s).next, { l with pending := rest }.after ⟨e, host.react e s⟩) →
      motive (bound + 1) l s)
    (delivered : ∀ bound l s e rest, host.isDown s = false → l.pending = e :: rest →
      ¬Fatally Delivery.Fails ⟨e, host.react e s⟩ →
      dispatch host e s { l with pending := rest } =
        (.ok (), (host.react e s).next, { l with pending := rest }.after ⟨e, host.react e s⟩) →
      motive bound ({ l with pending := rest }.after ⟨e, host.react e s⟩) (host.react e s).next →
      motive (bound + 1) l s)
    (bound : Nat) (l : Loop) (s : τ) : motive bound l s := by
  induction bound generalizing l s with
  | zero =>
    cases running : host.isDown s with
    | true => exact down 0 l s running
    | false =>
      cases waits : l.pending with
      | nil => exact idle 0 l s running waits
      | cons e rest => exact cut l s e rest running waits
  | succ bound ih =>
    cases running : host.isDown s with
    | true => exact down (bound + 1) l s running
    | false =>
      cases waits : l.pending with
      | nil => exact idle (bound + 1) l s running waits
      | cons e rest =>
        rcases dispatch_cases host e s { l with pending := rest } with
          ⟨quiet, run⟩ | ⟨fault, isFatal, failed, run⟩
        · exact delivered bound l s e rest running waits quiet run (ih _ _)
        · exact fatal bound l s e rest fault running waits isFatal failed run

/-- A drain that stopped for a reason of its own would not have gone further. -/
theorem drain_add (ended : (drain host bound l s).stop ≠ .bound) (further : Nat) :
    drain host (bound + further) l s = drain host bound l s := by
  induction bound, l, s using drain_induction host with
  | down bound l s down => rw [drain_of_down down, drain_of_down down]
  | idle bound l s up empty => rw [drain_of_empty up empty, drain_of_empty up empty]
  | cut l s e rest up waits =>
    rw [drain_zero up waits] at ended
    exact absurd rfl ended
  | fatal bound l s e rest fault up waits _ _ run =>
    rw [Nat.add_right_comm, drain_of_dispatch_error up waits run, drain_of_dispatch_error up waits run]
  | delivered bound l s e rest up waits _ run ih =>
    rw [drain_of_dispatch_ok up waits run] at ended
    rw [Nat.add_right_comm, drain_of_dispatch_ok up waits run, drain_of_dispatch_ok up waits run, ih ended]

end Equations

variable {s : Logged τ} {p : Progress (Logged τ)}

/-! ### One drain -/

theorem dispatch_logged (host : Host τ) (e : Event) (s : Logged τ) (l : Loop) :
    dispatch host.logged e s l =
      ((dispatch host e s.state l).1,
        s.note [⟨e, host.react e s.state⟩] (host.react e s.state).next,
        (dispatch host e s.state l).2.2) := by
  unfold dispatch
  dsimp only [Host.logged]
  cases (host.react e s.state).result with
  | ok => rfl
  | error fault =>
    dsimp only
    split
    · rfl
    · rfl

/-- What is so where a drain has stopped that was to make at most `bound` deliveries. -/
def Stopped (host : Host τ) (bound : Nat) (p : Progress τ) : Prop :=
  match p.stop with
  | .down => host.isDown p.host = true
  | .idle => host.isDown p.host = false ∧ p.loop.pending = []
  | .closed => False
  | .fatal fault => fault.isFatal = true
  | .bound => host.isDown p.host = false ∧ p.loop.pending ≠ [] ∧ p.delivered = bound

theorem Stopped.succ {p : Progress τ} (h : Stopped host bound p) :
    Stopped host (bound + 1) (p.more 1) := by
  unfold Stopped at h ⊢
  unfold Progress.more
  cases stop : p.stop with
  | down | idle | closed | fatal =>
    rw [stop] at h
    exact h
  | bound =>
    rw [stop] at h
    exact ⟨h.1, h.2.1, congrArg (· + 1) h.2.2⟩

/-- A drain that ends of itself, with neither a failure nor a host that is down, has nothing left. -/
theorem Stopped.pending_eq_nil {p : Progress τ} (h : Stopped host bound p) (ends : p.stop ≠ .bound)
    (ok : p.stop.result = .ok ()) (up : host.isDown p.host = false) : p.loop.pending = [] := by
  unfold Stopped at h
  cases stop : p.stop with
  | down =>
    rw [stop] at h
    exact absurd h (Bool.eq_false_iff.mp up)
  | idle =>
    rw [stop] at h
    exact h.2
  | closed =>
    rw [stop] at h
    exact h.elim
  | fatal fault =>
    rw [stop] at ok
    cases ok
  | bound => exact absurd stop ends

/-- What a drain does where a log is kept: `ds` are the deliveries that it adds. -/
structure Drains (host : Host τ) (bound : Nat) (l : Loop) (s : Logged τ) (ds : List (Delivery τ))
    (p : Progress (Logged τ)) : Prop where
  /-- The log changes nothing. -/
  plain : drain host bound l s.state = p.map (·.state)
  /-- Each delivery is of the first event that waits, to a host that is not down. -/
  serves : Serves host l s.state ds p.loop p.host.state
  log : p.host = s.note ds p.host.state
  stopped : Stopped host.logged bound p
  /-- A delivery that fails fatally is the last one, and its fault is the result. -/
  ends : Surfaces Delivery.Fails ds p.stop.result
  /-- A drain that does not fail tells how many deliveries it made. -/
  delivered : p.stop.result = .ok () → p.delivered = ds.length

namespace Drains

theorem still {stop : Stop} (ok : stop.result = .ok ())
    (plain : drain host bound l s.state = { stop, loop := l, host := s.state })
    (stopped : Stopped host.logged bound { stop, loop := l, host := s }) :
    Drains host bound l s [] { stop, loop := l, host := s } where
  plain := plain
  serves := .nil l s.state
  log := s.note_nil.symm
  stopped := stopped
  ends := ok ▸ .calm (by simp) nofun
  delivered _ := rfl

/-- A host that is down gets nothing. -/
theorem eq_nil_of_down (h : Drains host bound l s ds p) (down : host.isDown s.state = true) : ds = [] := by
  have serves := h.serves
  generalize p.host.state = s' at serves
  cases serves with
  | nil => rfl
  | cons up => exact absurd down (Bool.eq_false_iff.mp up)

end Drains

theorem drain_logged (host : Host τ) (bound : Nat) (l : Loop) (s : Logged τ) :
    ∃ ds, Drains host bound l s ds (drain host.logged bound l s) := by
  generalize same : s.state = state
  -- The log does not decide how a drain goes on, so that of the plain host gives the cases.
  induction bound, l, state using drain_induction host generalizing s with
  | down bound l state down =>
    subst same
    rw [drain_of_down (show host.logged.isDown s = true from down)]
    exact ⟨[], .still rfl (drain_of_down down) down⟩
  | idle bound l state up empty =>
    subst same
    rw [drain_of_empty (show host.logged.isDown s = false from up) empty]
    exact ⟨[], .still rfl (drain_of_empty up empty) ⟨up, empty⟩⟩
  | cut l state e rest up waits =>
    subst same
    rw [drain_zero (show host.logged.isDown s = false from up) waits]
    exact ⟨[], .still rfl (drain_zero up waits) ⟨up, by simp [waits], rfl⟩⟩
  | fatal bound l state e rest fault up waits isFatal failed run =>
    subst same
    have logged := dispatch_logged host e s { l with pending := rest }
    rw [run] at logged
    rw [drain_of_dispatch_error (show host.logged.isDown s = false from up) waits logged]
    exact ⟨[⟨e, host.react e s.state⟩], drain_of_dispatch_error up waits run, .cons up waits (.nil _ _), rfl,
      isFatal, .single failed isFatal, nofun⟩
  | delivered bound l state e rest up waits quiet run ih =>
    subst same
    have logged := dispatch_logged host e s { l with pending := rest }
    rw [run] at logged
    rw [drain_of_dispatch_ok (show host.logged.isDown s = false from up) waits logged]
    obtain ⟨ds, h⟩ := ih (s.note [⟨e, host.react e s.state⟩] (host.react e s.state).next) rfl
    refine ⟨⟨e, host.react e s.state⟩ :: ds, ?_, .cons up waits h.serves, h.log.trans (s.note_note _ _ _ _),
      h.stopped.succ, h.ends.cons quiet, fun ok => congrArg (· + 1) (h.delivered ok)⟩
    rw [drain_of_dispatch_ok up waits run]
    exact congrArg (Progress.more 1) h.plain

end Loop

/-! ### Many sends and drains -/

/-- A loop, and a host with the log of it. -/
structure Journal (τ : Type) where
  loop : Loop
  host : Logged τ

namespace Journal

inductive Move (τ : Type) where
  | send (events : List Event)
  /-- At most `bound` deliveries: a drain, or a part of one. -/
  | drain (bound : Nat)
  /-- Another party changes the state of the host, such as by shutting it down. -/
  | elsewhere (change : τ → τ)

/-- A loop that nothing was delivered from. -/
def start (queue : List Event) (state : τ) : Journal τ where
  loop := { pending := queue }
  host := { state, accepted := queue, delivered := [] }

def move (host : Host τ) (j : Journal τ) : Move τ → Journal τ
  | .send events => ⟨j.loop.send events, { j.host with accepted := j.host.accepted ++ events }⟩
  | .drain bound =>
    let p := j.loop.drain host.logged bound j.host
    ⟨p.loop, p.host⟩
  | .elsewhere change => { j with host := { j.host with state := change j.host.state } }

/-- The counters and the queue are as the log says. -/
structure Faithful (j : Journal τ) : Prop where
  /-- The events are delivered in the order in which they were accepted, each of them once. -/
  fifo : j.host.delivered.map (·.event) ++ j.loop.pending = j.host.accepted
  dispatched : j.loop.dispatched = j.host.delivered.length
  failed : j.loop.failed = j.host.delivered.countP (·.isSetback)

theorem start_faithful (queue : List Event) (state : τ) : (start queue state).Faithful where
  fifo := List.nil_append queue
  dispatched := rfl
  failed := rfl

theorem Faithful.drain {host : Host τ} {j : Journal τ} (h : j.Faithful) (bound : Nat) :
    (j.move host (.drain bound)).Faithful := by
  obtain ⟨ds, drains⟩ := Loop.drain_logged host bound j.loop j.host
  unfold move
  dsimp only
  generalize j.loop.drain host.logged bound j.host = p at drains
  refine ⟨?_, ?_, ?_⟩
  · rw [drains.log]
    show (j.host.delivered ++ ds).map (·.event) ++ p.loop.pending
      = j.host.accepted ++ ds.flatMap (·.reaction.raised)
    rw [List.map_append, List.append_assoc, ← drains.serves.pending_eq, ← List.append_assoc, h.fifo]
  · rw [drains.serves.dispatched_eq, drains.log, h.dispatched]
    exact List.length_append.symm
  · rw [drains.serves.failed_eq, drains.log, h.failed]
    exact List.countP_append.symm

theorem Faithful.move {host : Host τ} {j : Journal τ} (h : j.Faithful) (m : Move τ) :
    (j.move host m).Faithful := by
  cases m with
  | send events =>
    refine ⟨?_, h.dispatched, h.failed⟩
    show j.host.delivered.map (·.event) ++ (j.loop.pending ++ events) = j.host.accepted ++ events
    rw [← List.append_assoc, h.fifo]
  | drain bound => exact h.drain bound
  | elsewhere change => exact ⟨h.fifo, h.dispatched, h.failed⟩

/-- Whatever the queue held at first, and whatever was sent and drained since: what was delivered and
what waits is what was accepted, the counters count the deliveries, and another drain delivers the events
that wait, one by one from the first, up to its reason to stop. -/
theorem faithful_and_drains (host : Host τ) (queue : List Event) (state : τ) (moves : List (Move τ)) :
    let j := moves.foldl (Journal.move host) (start queue state)
    j.Faithful ∧ ∀ bound, ∃ ds,
      Loop.Drains host bound j.loop j.host ds (j.loop.drain host.logged bound j.host) ∧
        (host.isDown j.host.state = true → ds = []) := by
  refine ⟨?_, fun bound => ?_⟩
  · refine List.foldlRecOn moves (Journal.move host) (start_faithful queue state) ?_
    exact fun _ h m _ => h.move m
  · obtain ⟨ds, drains⟩ := Loop.drain_logged host bound _ _
    exact ⟨ds, drains, drains.eq_nil_of_down⟩

end Journal

end MacAgent
