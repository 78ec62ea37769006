import Mathlib.Tactic.Ring
import MacAgent.Proofs.Agent.Frame
import MacAgent.Proofs.Memory.Changes
import MacAgent.Proofs.Memory.Held
import MacAgent.Proofs.Loop.Journal

/-! # The queue of an agent runs dry

Handling an event can raise others, but only notices, which raise nothing themselves. Clearing the table
raises at most one for each entry, all of which it deletes; installing the examples raises at most three. So
each delivery lowers a measure of the queue and the table, whatever the plane refuses, and no number of
events keeps a drain busy for more than a known number of deliveries. -/

namespace MacAgent

section Composition

variable {τ α β : Type} {R S T : τ → τ → Prop}

/-- What a computation and the one after it keep may be of two kinds. -/
theorem Keeps.bind_then {act : ExceptT Fault (StateM τ) α} {f : α → ExceptT Fault (StateM τ) β}
    (h : Keeps R act) (hf : ∀ a, Keeps S (f a)) (ended : ∀ s t, R s t → T s t)
    (went : ∀ s t u, R s t → S t u → T s u) : Keeps T (act >>= f) := by
  intro s
  have first := h s
  rw [run_bind]
  rcases run : act.run.run s with ⟨_ | a, t⟩ <;> rw [run] at first
  · exact ended s t first
  · exact went s t _ first (hf a t)

end Composition

namespace Memory

variable {m m' m'' : Memory} {i j : Nat} {r : Request}

/-- For each notice that was sent an entry is gone, and perhaps others are gone too. -/
def Shrinks (m m' : Memory) : Prop :=
  m'.outbox.length + m'.table.entries.length ≤ m.outbox.length + m.table.entries.length

instance : IsPreorder Memory Shrinks where
  refl _ := Nat.le_refl _
  trans _ _ _ h h' := Nat.le_trans h' h

/-- At most `n` notices were sent, and there are at most so many entries more. -/
def Grows (n : Nat) (m m' : Memory) : Prop :=
  m'.outbox.length ≤ m.outbox.length + n ∧ m'.table.entries.length ≤ m.table.entries.length + n

theorem Grows.trans (h : m.Grows i m') (h' : m'.Grows j m'') : m.Grows (i + j) m'' := by
  unfold Grows at *
  omega

theorem Grows.mono (h : m.Grows i m') (le : i ≤ j) : m.Grows j m' := by
  unfold Grows at *
  omega

instance : IsPreorder Memory (Grows 0) where
  refl _ := ⟨Nat.le_refl _, Nat.le_refl _⟩
  trans _ _ _ := Grows.trans

theorem upsert_length (t : Table) (e : Entry) :
    (t.upsert e).1.entries.length ≤ t.entries.length + 1 ∧ (t.upsert e).2.toList.length ≤ 1 := by
  refine ⟨?_, by cases (t.upsert e).2 <;> simp⟩
  unfold Table.upsert
  split
  · split
    · exact Nat.le_succ _
    · simp
  · simp

theorem delete_length {t t' : Table} {k : Key} {event? : Option Event} (h : t.delete k = .ok (t', event?)) :
    event?.toList.length + t'.entries.length ≤ t.entries.length := by
  unfold Table.delete at h
  split at h
  · cases h
  · split at h
    · rename_i found
      cases h
      obtain ⟨x, found⟩ := Option.isSome_iff_exists.mp found
      have fewer : (t.entries.filter (·.key ≠ k)).length < t.entries.length := by
        refine List.length_filter_lt_length_iff_exists.mpr ⟨x, List.mem_of_find?_eq_some found, ?_⟩
        simp [Table.find?_key found]
      have one : (t.announce (.entryDeleted k)).toList.length ≤ 1 := by
        cases t.announce (.entryDeleted k) <;> simp
      show (t.announce (.entryDeleted k)).toList.length + (t.entries.filter (·.key ≠ k)).length ≤ t.entries.length
      omega
    · cases h
      simp

theorem install_grows (e : Entry) (m : Memory) : m.Grows 1 (m.answer (.install e)).2 := by
  by_cases reached : m.reaches (.install e)
  · rw [answer_of_reaches reached]
    show m.Grows 1 (m.updateTable (m.table.install e)).2
    unfold Table.install
    split
    · obtain ⟨entries, event⟩ := upsert_length m.table e
      refine ⟨?_, entries⟩
      show (m.outbox ++ (m.table.upsert e).2.toList).length ≤ m.outbox.length + 1
      rw [List.length_append]
      omega
    · exact (refl_of (Grows 0) m).mono (Nat.zero_le 1)
  · rw [answer_of_not_reaches reached]
    exact (refl_of (Grows 0) m).mono (Nat.zero_le 1)

theorem heeds_grows : plane.Heeds (fun r => (∀ e, r ≠ .install e) ∧ ∀ k, r ≠ .delete k) (Grows 0) := by
  refine heeds_of_serve ?_
  rintro r ⟨install, delete⟩ m
  cases r with
  | install e => exact absurd rfl (install e)
  | delete k => exact absurd rfl (delete k)
  | option | optionValues | status | publish | acknowledge | keys | lookup | watch => exact refl_of (Grows 0) m

theorem heeds_shrinks : plane.Heeds (fun r => ∀ e, r ≠ .install e) Shrinks := by
  refine heeds_of_serve fun r install m => ?_
  cases r with
  | install e => exact absurd rfl (install e)
  | delete k =>
    show m.Shrinks (m.updateTable (m.table.delete k)).2
    rcases done : m.table.delete k with fault | ⟨t, event?⟩
    · exact refl_of Shrinks m
    · have le := delete_length done
      show (m.outbox ++ event?.toList).length + t.entries.length ≤ m.outbox.length + m.table.entries.length
      rw [List.length_append]
      omega
  | option | optionValues | status | publish | acknowledge | keys | lookup | watch => exact refl_of Shrinks m

end Memory

namespace Agent

variable {σ : Type} {plane : Plane σ} {memory : σ → Memory} {collect : σ → List Event × σ} {isDown : σ → Bool}
  {s : AgentState σ} {e : Event}

open Memory (Behind Shrinks Grows)

theorem bindAll_grows (h : plane.Holds memory collect) (bindings : List (Key × Interface)) (r : Report) :
    Keeps (Behind memory (Grows bindings.length))
      (bindings.foldlM (fun r (k, i) => batchStep (plane.bind k i) k r) r) := by
  induction bindings generalizing r with
  | nil => exact Keeps.pure (R := Behind memory (Grows 0)) r
  | cons b rest ih =>
    have bound : Keeps (Behind memory (Grows 1)) (batchStep (plane.bind b.1 b.2) b.1 r) := by
      have installed : Keeps (Behind memory (Grows 1)) (plane.bind b.1 b.2) :=
        h.call (fun m => (refl_of (Grows 0) m).mono (Nat.zero_le 1)) (Memory.install_grows _)
      refine Keeps.bind_then (S := Behind memory (Grows 0)) installed.attempt (fun result => ?_) (fun _ _ => id)
        fun _ _ _ => Grows.trans
      cases result with
      | ok _ => exact .pure _
      | error fault => exact .ite (.throw fault) (.pure _)
    rw [List.foldlM_cons, List.length_cons, Nat.add_comm]
    exact bound.bind_then ih (fun _ _ h => h.mono (Nat.le_add_right 1 _)) fun _ _ _ => Grows.trans

/-- An option other than the one that installs the examples. -/
theorem option_shrinks (h : plane.Holds memory collect) {key : String} (other : Topic.ofKey? key ≠ some .install)
    (value : String) : Keeps (Both Anyhow (Behind memory Shrinks)) (handleOption plane key value) := by
  have heeds := h.heeds Memory.heeds_shrinks
  refine keeps_handleOption ?_ (keeps_reviewOptions heeds nofun)
  unfold perform
  cases topic : Topic.ofKey? key with
  | none => exact .pure ()
  | some topic' =>
    cases topic' with
    | name => exact keeps_greet heeds (fun _ => nofun) (fun _ _ => trivial) value
    | survey => exact keeps_surveyTable heeds nofun (fun _ => nofun) (fun _ => nofun) fun _ _ => trivial
    | install => exact absurd topic other
    | clear => exact keeps_clearTable heeds nofun (fun _ => nofun) fun _ => nofun

theorem option_grows (h : plane.Holds memory collect) {key : String} (install : Topic.ofKey? key = some .install)
    (value : String) : Keeps (Both Anyhow (Behind memory (Grows 3))) (handleOption plane key value) := by
  have heeds := h.heeds Memory.heeds_grows
  have ended (s t : AgentState σ) (h : Both Anyhow (Behind memory (Grows 3)) s t) := h
  have went (s t u : AgentState σ) (h : Both Anyhow (Behind memory (Grows 3)) s t)
      (h' : Both Anyhow (Behind memory (Grows 0)) t u) : Both Anyhow (Behind memory (Grows 3)) s u :=
    ⟨trivial, h.2.trans h'.2⟩
  have performed : Keeps (Both Anyhow (Behind memory (Grows 3))) (perform plane key value) := by
    unfold perform
    rw [install]
    have bound : Keeps (Both Anyhow (Behind memory (Grows 3))) (onPlane plane.bindExamples) :=
      .onPlane (bindAll_grows h exampleBindings {})
    exact bound.bind_then (fun _ => .onPlane (heeds.call ⟨nofun, nofun⟩)) ended went
  have reviewed : Keeps (Both Anyhow (Behind memory (Grows 0))) (reviewOptions plane) :=
    keeps_reviewOptions heeds ⟨nofun, nofun⟩
  refine performed.attempt.bind_then (fun result => ?_) ended went
  cases result with
  | ok _ => exact reviewed
  | error fault => exact .ite (.throw fault) (reviewed.bind fun _ => .throw fault)

/-- How the outbox and the table change when an agent that works is told of an event. -/
theorem respond_shrinks_or_grows (h : plane.Holds memory collect) (e : Event) :
    Keeps (Both Anyhow (Behind memory Shrinks)) (respond plane e) ∨
      Keeps (Both Anyhow (Behind memory (Grows 3))) (respond plane e) := by
  have heeds := h.heeds Memory.heeds_shrinks
  cases e with
  | initialized =>
    exact .inl (keeps_start heeds nofun (fun _ => nofun) (fun _ => trivial) fun name =>
      option_shrinks h (by decide) name)
  | enabled on =>
    cases on with
    | true => exact .inl (.pure ())
    | false => exact .inl (keeps_shutDown heeds nofun nofun fun _ => trivial)
  | option key value =>
    by_cases install : Topic.ofKey? key = some .install
    · exact .inr (option_grows h install value)
    · exact .inl (option_shrinks h install value)
  | entrySet entry => exact .inl (Keeps.updateAgent fun _ => trivial)
  | entryDeleted key => exact .inl (Keeps.updateAgent fun _ => trivial)

/-- A delivery passes on what the plane has sent. -/
theorem react_of_run {result : Except Fault Unit} {t : AgentState σ}
    (run : (handle plane e).run.run s = (result, t)) :
    (host plane collect isDown).react e s =
      { result, raised := (collect t.plane).1, next := { t with plane := (collect t.plane).2 } } :=
  congrArg (fun x : Except Fault Unit × AgentState σ =>
    Reaction.mk x.1 (collect x.2.plane).1 { x.2 with plane := (collect x.2.plane).2 }) run

/-- What a delivery raises, and what it leaves of the table. -/
structure Raises (memory : σ → Memory) (e : Event) (s : AgentState σ) (r : Reaction (AgentState σ)) : Prop where
  collected : (memory r.next.plane).outbox = []
  notices : ∀ e ∈ r.raised, e.IsNotice
  /-- A notice raises nothing. -/
  quiet : e.IsNotice → r.raised = [] ∧ (memory r.next.plane).table = (memory s.plane).table
  few : r.raised.length + (memory r.next.plane).table.entries.length ≤ (memory s.plane).table.entries.length ∨
    r.raised.length ≤ 3 ∧
      (memory r.next.plane).table.entries.length ≤ (memory s.plane).table.entries.length + 3

theorem react_raises (h : plane.Holds memory collect) (isDown : σ → Bool) (empty : (memory s.plane).outbox = [])
    (e : Event) :
    Raises memory e s ((host plane collect isDown).react e s) := by
  have sent : (memory s.plane).Frame (memory ((handle plane e).run.run s).2.plane) :=
    (keeps_handle (h.heeds (Memory.heeds_frame _)) e s).2
  rcases run : (handle plane e).run.run s with ⟨result, t⟩
  rw [run] at sent
  -- The outbox was empty, so all that it holds now was sent meanwhile.
  obtain ⟨notices, outbox, isNotice⟩ := sent.outbox
  rw [empty, List.nil_append] at outbox
  have quiet (notice : e.IsNotice) : memory t.plane = memory s.plane := by
    rw [handle_notice plane notice] at run
    cases run
    rfl
  have few : (memory s.plane).Shrinks (memory t.plane) ∨ (memory s.plane).Grows 3 (memory t.plane) := by
    by_cases down : s.agent.phase = .disabled
    · obtain ⟨n, idle⟩ := handle_of_disabled plane down e
      rw [idle] at run
      cases run
      exact .inl (refl_of Shrinks _)
    · rw [handle_of_working plane down] at run
      have few := (respond_shrinks_or_grows h e).imp (fun h => (h s).2) fun h => (h s).2
      rwa [run] at few
  unfold Shrinks Grows at few
  rw [empty, outbox] at few
  rw [react_of_run run]
  refine ⟨?_, ?_, fun notice => ⟨?_, ?_⟩, ?_⟩
  · rw [h.collected]
  · rwa [h.raised, outbox]
  · rw [h.raised, quiet notice, empty]
  · rw [h.collected, quiet notice]
  · rw [h.raised, h.collected, outbox]
    simpa using few

/-! ### A measure that each delivery lowers -/

/-- At least as many deliveries as it takes until nothing waits. Each event that is no notice may raise as
many as there are entries by then, to which each of those before it may have added. -/
def potential (pending : List Event) (entries : Nat) : Nat :=
  let work := pending.countP (¬·.IsNotice)
  pending.countP (·.IsNotice) + work * (entries + 2 * work + 2)

theorem potential_lt {pending raised : List Event} {entries entries' : Nat} (notices : ∀ e ∈ raised, e.IsNotice)
    (quiet : e.IsNotice → raised = [] ∧ entries' = entries)
    (few : raised.length + entries' ≤ entries ∨ raised.length ≤ 3 ∧ entries' ≤ entries + 3) :
    potential (pending ++ raised) entries' < potential (e :: pending) entries := by
  have work : raised.countP (¬·.IsNotice) = 0 := by
    rw [List.countP_eq_length_filter, Event.filter_not_isNotice notices, List.length_nil]
  unfold potential
  simp only [List.countP_append, Event.countP_isNotice notices, work, Nat.add_zero, List.countP_cons]
  generalize pending.countP (¬·.IsNotice) = w
  generalize pending.countP (·.IsNotice) = c
  by_cases notice : e.IsNotice
  · obtain ⟨rfl, rfl⟩ := quiet notice
    simp [notice]
  · simp only [notice, decide_false, decide_true, not_false_eq_true, Bool.false_eq_true, if_true, if_false]
    have expand : (w + 1) * (entries + 2 * (w + 1) + 2) = w * (entries + 2 * w + 2) + (entries + 4 * w + 4) := by
      ring
    rw [expand]
    -- The summand that `e` leaves pays for what it raises, and for what it adds to the others' weight.
    rcases few with few | ⟨few, more⟩
    · have le : w * (entries' + 2 * w + 2) ≤ w * (entries + 2 * w + 2) :=
        Nat.mul_le_mul_left w (by omega)
      omega
    · have le : w * (entries' + 2 * w + 2) ≤ w * (entries + 3 + 2 * w + 2) :=
        Nat.mul_le_mul_left w (by omega)
      have split : w * (entries + 3 + 2 * w + 2) = w * (entries + 2 * w + 2) + 3 * w := by ring
      omega

theorem potential_le_deliveryBound (pending : List Event) (m : Memory) :
    potential pending m.table.entries.length ≤ m.deliveryBound pending.length := by
  have length := List.length_eq_countP_add_countP (fun e : Event => decide e.IsNotice) (l := pending)
  unfold potential Memory.deliveryBound
  simp only [decide_not, Bool.not_eq_true, decide_eq_false_iff_not] at length ⊢
  generalize m.table.entries.length = n
  generalize pending.countP (fun e => decide e.IsNotice) = c at length ⊢
  generalize pending.countP (fun e => !decide e.IsNotice) = w at length ⊢
  rw [length]
  calc c + w * (n + 2 * w + 2)
    _ ≤ c * (n + 2 * (c + w) + 4) + w * (n + 2 * (c + w) + 4) :=
      Nat.add_le_add (Nat.le_mul_of_pos_right c (by omega)) (Nat.mul_le_mul_left w (by omega))
    _ = (c + w) * (n + 2 * (c + w) + 4) := (Nat.add_mul c w _).symm

/-- A drain that may make enough deliveries does not stop for want of more. -/
theorem drain_settles (h : plane.Holds memory collect) {bound : Nat} {l : Loop}
    (empty : (memory s.plane).outbox = [])
    (enough : potential l.pending (memory s.plane).table.entries.length ≤ bound) :
    (l.drain (host plane collect isDown) bound s).stop ≠ .bound := by
  have lowers {l : Loop} {s : AgentState σ} {e : Event} {rest : List Event}
      (empty : (memory s.plane).outbox = []) (waits : l.pending = e :: rest) :
      potential (rest ++ ((host plane collect isDown).react e s).raised)
          (memory ((host plane collect isDown).react e s).next.plane).table.entries.length <
        potential l.pending (memory s.plane).table.entries.length := by
    have raises := react_raises h isDown empty e
    rw [waits]
    exact potential_lt raises.notices (fun notice => ⟨(raises.quiet notice).1, by rw [(raises.quiet notice).2]⟩)
      raises.few
  induction bound, l, s using Loop.drain_induction (host plane collect isDown) with
  | down bound l s down =>
    rw [Loop.drain_of_down down]
    exact nofun
  | idle bound l s up waits =>
    rw [Loop.drain_of_empty up waits]
    exact nofun
  | cut l s e rest up waits => exact absurd ((lowers empty waits).trans_le enough) (Nat.not_lt_zero _)
  | fatal bound l s e rest fault up waits _ _ run =>
    rw [Loop.drain_of_dispatch_error up waits run]
    exact nofun
  | delivered bound l s e rest up waits _ run ih =>
    rw [Loop.drain_of_dispatch_ok up waits run]
    exact ih (react_raises h isDown empty e).collected (Nat.le_of_lt_succ ((lowers empty waits).trans_le enough))

end Agent

end MacAgent
