import MacAgent.Proofs.Agent.Extension
import MacAgent.Proofs.Agent.Settling

/-! # What a drain delivers

Draining an agent comes to an end, whatever waits and whatever its plane refuses, as long as nobody else
sends events. Unless a failure is fatal or the agent shuts down, it delivers all that waited, and one more
event for each change that the agent made to a watched table. -/

namespace MacAgent

namespace Table

variable {t t' : Table} {e : Entry} {k : Key}

theorem upsert_entries_eq_iff : (t.upsert e).1.entries = t.entries ↔ t.find? e.key = some e := by
  constructor
  · intro same
    have found := (t.upsert_puts e).found
    unfold find? at found ⊢
    rwa [same] at found
  · intro found
    rw [upsert_of_find? found]

/-- The entries of a watched table change on the way from `t` to `t'`. -/
def Alerts (t t' : Table) : Prop := t.watching = true ∧ t'.entries ≠ t.entries

instance : Decidable (t.Alerts t') := inferInstanceAs (Decidable (_ ∧ _))

theorem length_unchanged (same : t'.entries = t.entries) :
    (none : Option Event).toList.length = if t.Alerts t' then 1 else 0 :=
  (if_neg fun alert : t.Alerts t' => alert.2 same).symm

theorem length_announce (changed : t'.entries ≠ t.entries) (event : Event) :
    (t.announce event).toList.length = if t.Alerts t' then 1 else 0 := by
  by_cases watched : t.watching = true
  · simp [announce, Alerts, watched, changed]
  · simp [announce, Alerts, watched]

theorem length_upsert (t : Table) (e : Entry) :
    (t.upsert e).2.toList.length = if t.Alerts (t.upsert e).1 then 1 else 0 := by
  rw [upsert_event]
  split
  · rename_i found
    exact length_unchanged (upsert_entries_eq_iff.mpr found)
  · rename_i other
    exact length_announce (mt upsert_entries_eq_iff.mp other) _

theorem length_delete {event? : Option Event} (h : t.delete k = .ok (t', event?)) :
    event?.toList.length = if t.Alerts t' then 1 else 0 := by
  obtain ⟨free, drops⟩ := delete_drops h
  have entries := drops.entries
  rw [delete_eq_ok free] at h
  cases h
  split
  · rename_i present
    refine length_announce (fun same => ?_) _
    -- Without a change the key would still be there.
    obtain ⟨x, stored, rfl⟩ := List.mem_map.mp present
    simpa using List.filter_eq_self.mp (entries.symm.trans same) x stored
  · rename_i absent
    refine length_unchanged (entries.trans (List.filter_eq_self.mpr fun x stored => decide_eq_true ?_))
    rintro rfl
    exact absent (List.mem_map_of_mem stored)

end Table

/-- Of a change of a watched table one notice is sent, and none of anything else. -/
theorem Memory.length_outbox_answer (m : Memory) (r : Request) :
    (m.answer r).2.outbox.length = m.outbox.length + if m.table.Alerts (m.answer r).2.table then 1 else 0 := by
  have idle {m' : Memory} (entries : m'.table.entries = m.table.entries) (outbox : m'.outbox = m.outbox) :
      m'.outbox.length = m.outbox.length + if m.table.Alerts m'.table then 1 else 0 := by
    rw [outbox, ← Table.length_unchanged entries]
    rfl
  have updated {result : Except Fault (Table × Option Event)} (told : ∀ t event?, result = .ok (t, event?) →
      event?.toList.length = if m.table.Alerts t then 1 else 0) :
      (m.updateTable result).2.outbox.length =
        m.outbox.length + if m.table.Alerts (m.updateTable result).2.table then 1 else 0 := by
    rcases result with fault | ⟨t, event?⟩
    · exact idle rfl rfl
    · show (m.outbox ++ event?.toList).length = _
      rw [List.length_append, told t event? rfl]
      rfl
  by_cases reached : m.reaches r
  · rw [answer_of_reaches reached]
    cases r with
    | install e =>
      refine updated fun t event? done => ?_
      unfold Table.install at done
      split at done
      · have told := m.table.length_upsert e
        rwa [Except.ok.inj done] at told
      · cases done
    | delete k => exact updated fun t event? => Table.length_delete
    | option | optionValues | status | publish | acknowledge | keys | lookup | watch => exact idle rfl rfl
  · rw [answer_of_not_reaches reached]
    exact idle rfl rfl

/-! ### Counting changes -/

/-- A plane's state, with the number of changes that requests have made to its table under watch. -/
structure Counted (σ : Type) where
  plane : σ
  changes : Nat := 0

namespace Counted

variable {σ : Type} {memory : σ → Memory}

def answer (plane : Plane σ) (memory : σ → Memory) (r : Request) (s : Counted σ) :
    Except Fault r.Answer × Counted σ :=
  let (answer, next) := plane.answer r s.plane
  let change := if (memory s.plane).table.Alerts (memory next).table then 1 else 0
  (answer, { plane := next, changes := s.changes + change })

def collect (collect : σ → List Event × σ) (s : Counted σ) : List Event × Counted σ :=
  let (events, plane) := collect s.plane
  (events, { s with plane })

/-- As many events were sent as changes were counted. -/
def Told (memory : σ → Memory) (s t : Counted σ) : Prop :=
  (memory t.plane).outbox.length + s.changes = (memory s.plane).outbox.length + t.changes

instance : IsPreorder (Counted σ) (Told memory) where
  refl _ := rfl
  trans _ _ _ h h' := by
    unfold Told at *
    omega

end Counted

/-- The plane that also counts the changes of the table that it holds. -/
def Plane.counted {σ : Type} (plane : Plane σ) (memory : σ → Memory) : Plane (Counted σ) where
  answer := Counted.answer plane memory
  polled source polls s := { s with plane := plane.polled source polls s.plane }
  lead s := plane.lead s.plane

section Drain

variable {σ : Type} {plane : Plane σ} {memory : σ → Memory} {collect : σ → List Event × σ} {isDown : σ → Bool}

namespace Counted

theorem plane_extends (plane : Plane σ) (memory : σ → Memory) :
    (plane.counted memory).Extends Counted.plane plane :=
  ⟨fun _ _ => rfl, fun _ _ _ => rfl, fun _ => rfl⟩

theorem plane_holds (h : plane.Holds memory collect) :
    (plane.counted memory).Holds (fun s => memory s.plane) (Counted.collect collect) where
  answer r s := h.answer r s.plane
  polled source n s := h.polled source n s.plane
  raised s := h.raised s.plane
  collected s := h.collected s.plane

theorem heeds_told (h : plane.Holds memory collect) (P : Request → Prop) :
    (plane.counted memory).Heeds P (Told memory) where
  answer r _ s := by
    show (memory (plane.answer r s.plane).2).outbox.length + s.changes = (memory s.plane).outbox.length +
      (s.changes + if (memory s.plane).table.Alerts (memory (plane.answer r s.plane).2).table then 1 else 0)
    have sent : (memory (plane.answer r s.plane).2).outbox.length = (memory s.plane).outbox.length +
        if (memory s.plane).table.Alerts (memory (plane.answer r s.plane).2).table then 1 else 0 := by
      rcases h.answer r s.plane with own | answered
      · rw [own, ← Table.length_unchanged rfl]
        rfl
      · rw [answered]
        exact Memory.length_outbox_answer _ r
    omega
  polled source n s := by
    show (memory (plane.polled source n s.plane)).outbox.length + s.changes =
      (memory s.plane).outbox.length + s.changes
    rw [h.polled]

end Counted

namespace Loop

variable {τ υ : Type} {host : Host τ} {host' : Host υ} {f : υ → τ}

/-- What the host of a loop keeps beside another does not show in the loop. -/
theorem drain_map (down : ∀ t, host.isDown (f t) = host'.isDown t)
    (react : ∀ e t, host.react e (f t) =
      ⟨(host'.react e t).result, (host'.react e t).raised, f (host'.react e t).next⟩)
    (bound : Nat) (l : Loop) (t : υ) :
    l.drain host bound (f t) = (l.drain host' bound t).map f := by
  have dispatched (e : Event) (t : υ) (l : Loop) : l.dispatch host e (f t) =
      ((l.dispatch host' e t).1, f (l.dispatch host' e t).2.1, (l.dispatch host' e t).2.2) := by
    unfold dispatch
    rw [react]
    rcases host'.react e t with ⟨fault | _, raised, next⟩
    · dsimp only
      split
      · rfl
      · rfl
    · rfl
  induction bound, l, t using drain_induction host' with
  | down bound l t stopped =>
    rw [drain_of_down stopped, drain_of_down ((down t).trans stopped)]
    rfl
  | idle bound l t up empty =>
    rw [drain_of_empty up empty, drain_of_empty ((down t).trans up) empty]
    rfl
  | cut l t e rest up waits =>
    rw [drain_zero up waits, drain_zero ((down t).trans up) waits]
    rfl
  | fatal bound l t e rest fault up waits _ _ run =>
    have run' := dispatched e t { l with pending := rest }
    rw [run] at run'
    rw [drain_of_dispatch_error up waits run, drain_of_dispatch_error ((down t).trans up) waits run']
    rfl
  | delivered bound l t e rest up waits _ run ih =>
    have run' := dispatched e t { l with pending := rest }
    rw [run] at run'
    rw [drain_of_dispatch_ok up waits run, drain_of_dispatch_ok ((down t).trans up) waits run', ih]
    rfl

end Loop

namespace Agent

def countingHost (plane : Plane σ) (memory : σ → Memory) (collect : σ → List Event × σ) (isDown : σ → Bool) :
    Host (AgentState (Counted σ)) :=
  host (plane.counted memory) (Counted.collect collect) (isDown ·.plane)

theorem drain_counting (plane : Plane σ) (memory : σ → Memory) (collect : σ → List Event × σ) (isDown : σ → Bool)
    (bound : Nat) (l : Loop) (s : AgentState (Counted σ)) :
    l.drain (host plane collect isDown) bound (s.map Counted.plane) =
      (l.drain (countingHost plane memory collect isDown) bound s).map (·.map Counted.plane) := by
  refine Loop.drain_map (f := AgentState.map Counted.plane) (fun _ => rfl) (fun e t => ?_) bound l s
  rw [react_of_run (projects_handle (Counted.plane_extends plane memory) e t)]
  rfl

/-- A delivery raises an event for each change that it counts. -/
theorem length_raised (h : plane.Holds memory collect) (isDown : σ → Bool) {s : AgentState (Counted σ)}
    (empty : (memory s.plane.plane).outbox = []) (e : Event) :
    ((countingHost plane memory collect isDown).react e s).raised.length + s.plane.changes =
      ((countingHost plane memory collect isDown).react e s).next.plane.changes := by
  have told : Counted.Told memory s.plane ((handle (plane.counted memory) e).run.run s).2.plane :=
    (keeps_handle (Counted.heeds_told h fun _ => True) e s).2
  rcases run : (handle (plane.counted memory) e).run.run s with ⟨result, t⟩
  rw [run, Counted.Told, empty, List.length_nil, Nat.zero_add] at told
  rw [countingHost, react_of_run run]
  show (collect t.plane.plane).1.length + s.plane.changes = t.plane.changes
  rwa [h.raised]

theorem length_raised_of_serves (h : plane.Holds memory collect) {l l' : Loop} {s s' : AgentState (Counted σ)}
    {ds : List (Delivery (AgentState (Counted σ)))} (empty : (memory s.plane.plane).outbox = [])
    (serves : Loop.Serves (countingHost plane memory collect isDown) l s ds l' s') :
    (ds.flatMap (·.reaction.raised)).length + s.plane.changes = s'.plane.changes := by
  induction serves with
  | nil l s => exact Nat.zero_add _
  | @cons l l' s s' e rest ds _ _ _ ih =>
    have collected := (react_raises (Counted.plane_holds h) (isDown ·.plane) empty e).collected
    have first := length_raised h isDown empty e
    have later := ih collected
    rw [List.flatMap_cons, List.length_append]
    dsimp only at first ⊢
    omega

/-- How a drain of a queue ends, `p`, that made enough deliveries. -/
structure RunsDry (plane : Plane σ) (collect : σ → List Event × σ) (isDown : σ → Bool) (bound : Nat) (l : Loop)
    (s : AgentState σ) (p : Progress (AgentState (Counted σ))) : Prop where
  /-- The counting does not show. -/
  plain : l.drain (host plane collect isDown) bound s = p.map (·.map Counted.plane)
  ends : p.stop ≠ .bound
  /-- A drain that neither failed nor was stopped by a shutdown has emptied the queue. -/
  delivers : p.stop.result = .ok () → isDown p.host.plane.plane = false →
    p.loop.pending = [] ∧ p.delivered = l.pending.length + p.host.plane.changes

/-- Draining an agent ends, and delivers what waited and one event for each change of the watched table. -/
theorem drain_runs_dry (h : plane.Holds memory collect) (isDown : σ → Bool) (l : Loop) (s : AgentState σ)
    (empty : (memory s.plane).outbox = []) (bound : Nat)
    (enough : (memory s.plane).deliveryBound l.pending.length ≤ bound) :
    RunsDry plane collect isDown bound l s
      (l.drain (countingHost plane memory collect isDown) bound { s with plane := { plane := s.plane } }) := by
  let start : AgentState (Counted σ) := { s with plane := { plane := s.plane } }
  have plain := drain_counting plane memory collect isDown bound l start
  have ends : (l.drain (countingHost plane memory collect isDown) bound start).stop ≠ .bound :=
    drain_settles (Counted.plane_holds h) empty ((potential_le_deliveryBound _ _).trans enough)
  -- The log of the deliveries says how many there were, and what each of them raised.
  obtain ⟨ds, drains⟩ := Loop.drain_logged (countingHost plane memory collect isDown) bound l ⟨start, [], []⟩
  generalize l.drain (countingHost plane memory collect isDown).logged bound ⟨start, [], []⟩ = p at drains
  have logged : l.drain (countingHost plane memory collect isDown) bound start = p.map (·.state) := drains.plain
  show RunsDry plane collect isDown bound l s (l.drain (countingHost plane memory collect isDown) bound start)
  rw [logged] at plain ends ⊢
  refine ⟨plain, ends, fun ok up => ?_⟩
  have idle : p.loop.pending = [] := drains.stopped.pending_eq_nil ends ok up
  have served := drains.serves.pending_eq
  have raised := length_raised_of_serves h empty drains.serves
  rw [idle, List.append_nil] at served
  refine ⟨idle, ?_⟩
  show p.delivered = l.pending.length + p.host.state.plane.changes
  calc p.delivered
    _ = (ds.map (·.event)).length := by rw [drains.delivered ok, List.length_map]
    _ = l.pending.length + (ds.flatMap (·.reaction.raised)).length := by rw [← served, List.length_append]
    _ = l.pending.length + p.host.state.plane.changes := congrArg (l.pending.length + ·) raised

/-- An agent that installs the examples and then clears the table, which holds two entries, one of them
locked: the two options raise five notices. -/
theorem drain_runs_dry_of_refilled :
    let entry (vlan : UInt16) : Entry := ⟨⟨vlan, .zero⟩, .empty⟩
    let m : Memory := { table := { entries := [entry 1, entry 2], watching := true, locked := [(entry 2).key] } }
    let l : Loop := { pending := [.option "set" "on", .option "clear" "on"] }
    let s : AgentState Memory := { agent := { config := {} }, plane := m }
    let p := l.drain (countingHost Memory.plane id Memory.collect (·.board.isShutDown)) (m.deliveryBound 2)
      { s with plane := { plane := s.plane } }
    m.outbox = [] ∧ m.deliveryBound l.pending.length ≤ m.deliveryBound 2 ∧
      RunsDry Memory.plane Memory.collect (·.board.isShutDown) (m.deliveryBound 2) l s p ∧
      p.stop = .idle ∧ p.host.plane.changes = 5 ∧ p.delivered = 7 :=
  ⟨rfl, Nat.le_refl _,
    drain_runs_dry Memory.plane_holds _ _ _ rfl _ (Nat.le_refl _), by decide +kernel, by decide +kernel,
    by decide +kernel⟩

end Agent

end Drain

end MacAgent
