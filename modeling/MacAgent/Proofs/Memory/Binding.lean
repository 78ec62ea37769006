import MacAgent.Proofs.Memory.Writes
import MacAgent.Proofs.Plane.Batch

/-! # Binding keys to interfaces

A batch of bindings installs one unicast entry after another. Of the bindings of one key the last one counts, and a
binding with a reserved VLAN is refused and changes nothing. -/

namespace MacAgent

/-- The call that binds a key to an interface. -/
def Write.bind (p : Key × Interface) : Write := .install (.unicast p.1 p.2)

namespace Memory

/-- Why a key with a reserved VLAN is not bound. -/
def reserved (k : Key) : Fault := .invalidEntry k "0 and 4095 are reserved VLAN IDs"

/-- The plane after keys have been bound, one after another. -/
def bound (m : Memory) (bindings : List (Key × Interface)) : Memory :=
  (bindings.map Write.bind).foldl Write.perform m

/-- The notices of those bindings that differ from the entry that the table has for their key when they are made. -/
def news (m : Memory) : List (Key × Interface) → List Event
  | [] => []
  | (k, i) :: rest =>
    (if Vlan.Usable k.vlan ∧ m.table.find? k ≠ some (.unicast k i) then [.entrySet (.unicast k i)] else []) ++
      news ((Write.bind (k, i)).perform m) rest

variable {m : Memory} {k : Key} {i : Interface} {p : Key × Interface} {bindings : List (Key × Interface)}

/-! ### One binding -/

theorem bind_answer (connected : m.table.connected = true) (p : Key × Interface) :
    (plane.bind p.1 p.2).run.run m =
      (if ¬Vlan.Usable p.1.vlan then .error (reserved p.1) else .ok (), (Write.bind p).perform m) := by
  refine Prod.ext ?_ rfl
  show (m.answer (.install (.unicast p.1 p.2))).1 = _
  by_cases usable : Vlan.Usable p.1.vlan
  · rw [install_answer connected usable, if_neg (not_not_intro usable)]
    rfl
  · rw [(Refuses.invalidEntry (.unicast p.1 p.2) connected usable).answer, if_pos usable]
    rfl

theorem bind_of_usable (connected : m.table.connected = true) (usable : Vlan.Usable p.1.vlan) :
    (Write.bind p).perform m = { m with table := (m.table.upsert (.unicast p.1 p.2)).1 }.send
      (m.table.upsert (.unicast p.1 p.2)).2.toList :=
  congrArg Prod.snd (install_answer (e := .unicast p.1 p.2) connected usable)

theorem bind_of_reserved (connected : m.table.connected = true) (h : ¬Vlan.Usable p.1.vlan) :
    (Write.bind p).perform m = m :=
  congrArg Prod.snd (Refuses.invalidEntry (.unicast p.1 p.2) connected h).answer

theorem bind_keys (connected : m.table.connected = true) (p : Key × Interface) :
    ((Write.bind p).perform m).table.keys =
      if Vlan.Usable p.1.vlan ∧ p.1 ∉ m.table.keys then m.table.keys ++ [p.1] else m.table.keys := by
  by_cases usable : Vlan.Usable p.1.vlan
  · have put : (m.table.upsert (.unicast p.1 p.2)).1.keys =
        if p.1 ∈ m.table.keys then m.table.keys else m.table.keys ++ [p.1] :=
      (m.table.upsert_puts (.unicast p.1 p.2)).keys
    rw [bind_of_usable connected usable]
    refine put.trans ?_
    by_cases present : p.1 ∈ m.table.keys
    · rw [if_pos present, if_neg fun h => h.2 present]
    · rw [if_neg present, if_pos ⟨usable, present⟩]
  · rw [bind_of_reserved connected usable, if_neg fun h => usable h.1]

theorem bind_outbox (connected : m.table.connected = true) (p : Key × Interface) :
    ((Write.bind p).perform m).outbox = m.outbox ++ if m.table.watching then
      if Vlan.Usable p.1.vlan ∧ m.table.find? p.1 ≠ some (.unicast p.1 p.2) then [.entrySet (.unicast p.1 p.2)] else []
    else [] := by
  by_cases usable : Vlan.Usable p.1.vlan
  · have told : (m.table.upsert (.unicast p.1 p.2)).2 = if m.table.find? p.1 = some (.unicast p.1 p.2) then none
        else m.table.announce (.entrySet (.unicast p.1 p.2)) := m.table.upsert_event (.unicast p.1 p.2)
    rw [bind_of_usable connected usable]
    show m.outbox ++ (m.table.upsert _).2.toList = _
    rw [told]
    by_cases same : m.table.find? p.1 = some (.unicast p.1 p.2)
    · simp [same]
    · simp [same, usable, Table.announce, apply_ite Option.toList]
  · simp [bind_of_reserved connected usable, usable]

/-! ### Many bindings -/

theorem bound_settings (m : Memory) (bindings : List (Key × Interface)) :
    m.table.SameSettings (m.bound bindings).table := Write.foldl_settings _ m

theorem bound_board (m : Memory) (bindings : List (Key × Interface)) : (m.bound bindings).board = m.board := by
  refine List.foldlRecOn (motive := fun m' : Memory => m'.board = m.board) _ _ rfl fun m' same w _ => ?_
  rw [Write.perform_eq, updateTable_board, same]

theorem bound_distinct (distinct : m.table.keys.Nodup) (bindings : List (Key × Interface)) :
    (m.bound bindings).table.keys.Nodup := by
  induction bindings generalizing m with
  | nil => exact distinct
  | cons p rest ih => exact ih (perform_distinct distinct (.ask (.install (.unicast p.1 p.2))))

theorem bound_others (connected : m.table.connected = true) (h : k ∈ bindings.map (·.1) → ¬Vlan.Usable k.vlan) :
    (m.bound bindings).table.find? k = m.table.find? k := by
  induction bindings generalizing m with
  | nil => rfl
  | cons p rest ih =>
    have settings := Write.perform_settings (Write.bind p) m
    refine (ih (settings.connected.trans connected) fun later => h (List.mem_cons_of_mem _ later)).trans ?_
    rw [Write.find?_perform connected]
    refine if_neg ?_
    rintro ⟨rfl, usable⟩
    exact h List.mem_cons_self usable

/-- A key is bound to the interface of its last binding. -/
theorem bound_last (connected : m.table.connected = true) {before later : List (Key × Interface)}
    (usable : Vlan.Usable k.vlan) (last : k ∉ later.map (·.1)) :
    (m.bound (before ++ (k, i) :: later)).table.find? k = some (.unicast k i) := by
  have split : m.bound (before ++ (k, i) :: later) = ((Write.bind (k, i)).perform (m.bound before)).bound later := by
    unfold bound
    rw [List.map_append, List.foldl_append]
    rfl
  have connected' := (bound_settings m before).connected.trans connected
  have settings := Write.perform_settings (Write.bind (k, i)) (m.bound before)
  rw [split, bound_others (settings.connected.trans connected') fun member => absurd member last,
    Write.find?_perform connected']
  exact if_pos ⟨rfl, usable⟩

theorem bound_keys (connected : m.table.connected = true) (bindings : List (Key × Interface)) :
    (m.bound bindings).table.keys = m.table.keys ++
      ((bindings.map (·.1)).filter fun k => Vlan.Usable k.vlan ∧ k ∉ m.table.keys).eraseDups := by
  induction bindings generalizing m with
  | nil => simp [bound]
  | cons p rest ih =>
    have settings := Write.perform_settings (Write.bind p) m
    refine (ih (settings.connected.trans connected)).trans ?_
    rw [bind_keys connected, List.map_cons]
    by_cases new : Vlan.Usable p.1.vlan ∧ p.1 ∉ m.table.keys
    · have others : ((rest.map (·.1)).filter fun k => Vlan.Usable k.vlan ∧ k ∉ m.table.keys).filter (!· == p.1) =
          (rest.map (·.1)).filter fun k => Vlan.Usable k.vlan ∧ k ∉ m.table.keys ++ [p.1] := by
        rw [List.filter_filter]
        refine List.filter_congr fun k _ => ?_
        grind
      rw [if_pos new, List.filter_cons_of_pos (by simpa using new), List.eraseDups_cons, others, List.append_assoc]
      rfl
    · rw [if_neg new, List.filter_cons_of_neg (by simpa using new)]

theorem bound_outbox (connected : m.table.connected = true) (bindings : List (Key × Interface)) :
    (m.bound bindings).outbox = m.outbox ++ if m.table.watching then m.news bindings else [] := by
  induction bindings generalizing m with
  | nil => simp [bound, news]
  | cons p rest ih =>
    have settings := Write.perform_settings (Write.bind p) m
    refine (ih (settings.connected.trans connected)).trans ?_
    rw [bind_outbox connected, settings.watching, List.append_assoc]
    split
    · rfl
    · rfl

theorem bound_of_bound (connected : m.table.connected = true)
    (h : ∀ p ∈ bindings, Vlan.Usable p.1.vlan → m.table.find? p.1 = some (.unicast p.1 p.2)) :
    m.bound bindings = m := by
  induction bindings with
  | nil => rfl
  | cons p rest ih =>
    have idle : (Write.bind p).perform m = m := by
      by_cases usable : Vlan.Usable p.1.vlan
      · have same := Table.upsert_of_find? (e := .unicast p.1 p.2) (h p List.mem_cons_self usable)
        rw [bind_of_usable connected usable, same]
        exact congrArg (Memory.mk _ _) (List.append_nil _)
      · exact bind_of_reserved connected usable
    have later := ih fun p' member => h p' (List.mem_cons_of_mem p member)
    unfold bound at later ⊢
    rw [List.map_cons, List.foldl_cons, idle, later]

/-- Which binding of a key counts does not depend on the table. -/
theorem exists_bound (usable : Vlan.Usable k.vlan) (h : k ∈ bindings.map (·.1)) : ∃ i, (k, i) ∈ bindings ∧
    ∀ m : Memory, m.table.connected = true → (m.bound bindings).table.find? k = some (.unicast k i) := by
  induction bindings with
  | nil => cases h
  | cons p rest ih =>
    by_cases later : k ∈ rest.map (·.1)
    · obtain ⟨i, member, found⟩ := ih later
      refine ⟨i, List.mem_cons_of_mem p member, fun m connected => ?_⟩
      exact found _ ((Write.perform_settings (Write.bind p) m).connected.trans connected)
    · obtain rfl : k = p.1 := (List.mem_cons.mp h).resolve_right later
      exact ⟨p.2, List.mem_cons_self, fun m connected => @bound_last m p.1 p.2 connected [] rest usable later⟩

theorem bound_bound (connected : m.table.connected = true) (distinct : m.table.keys.Nodup)
    (bindings : List (Key × Interface)) : ((m.bound bindings).bound bindings).table = (m.bound bindings).table := by
  have settings := bound_settings m bindings
  have connected' := settings.connected.trans connected
  have settings' := bound_settings (m.bound bindings) bindings
  have keys : ((m.bound bindings).bound bindings).table.keys = (m.bound bindings).table.keys := by
    -- No key is new the second time.
    have old : (bindings.map (·.1)).filter
        (fun k => Vlan.Usable k.vlan ∧ k ∉ (m.bound bindings).table.keys) = [] := by
      refine List.filter_eq_nil_iff.mpr fun k member new => ?_
      obtain ⟨usable, absent⟩ := of_decide_eq_true new
      obtain ⟨i, -, found⟩ := exists_bound usable member
      exact absent (Table.mem_keys_of_find? (found m connected))
    rw [bound_keys connected', old, List.eraseDups_nil, List.append_nil]
  have found (k : Key) :
      ((m.bound bindings).bound bindings).table.find? k = (m.bound bindings).table.find? k := by
    by_cases bound : k ∈ bindings.map (·.1) ∧ Vlan.Usable k.vlan
    · obtain ⟨i, -, found⟩ := exists_bound bound.2 bound.1
      rw [found m connected, found _ connected']
    · exact bound_others connected' fun member usable => bound ⟨member, usable⟩
  exact settings'.eq_of_entries (Table.entries_eq_of_find? (bound_distinct distinct bindings) keys found)

/-- The usable keys are bound to one interface each. -/
def IsSingleValued (bindings : List (Key × Interface)) : Prop :=
  ∀ k i j, (k, i) ∈ bindings → (k, j) ∈ bindings → Vlan.Usable k.vlan → i = j

theorem IsSingleValued.bound_bound (h : IsSingleValued bindings) (connected : m.table.connected = true) :
    (m.bound bindings).bound bindings = m.bound bindings := by
  refine bound_of_bound ((bound_settings m bindings).connected.trans connected) fun p member usable => ?_
  obtain ⟨i, member', found⟩ := exists_bound usable (List.mem_map_of_mem member)
  rw [found m connected, h p.1 i p.2 member' member usable]

theorem run_bindAll (connected : m.table.connected = true) (bindings : List (Key × Interface)) :
    (plane.bindAll bindings).run.run m = (.ok ⟨bindings.length,
      (bindings.filter fun p => ¬Vlan.Usable p.1.vlan).map fun p => (p.1, (reserved p.1).message)⟩,
      m.bound bindings) := by
  have step : ∀ done p rest m', bindings = done ++ p :: rest → m' = m.bound done →
      ∃ m'', (plane.bind p.1 p.2).run.run m' =
        (if ¬Vlan.Usable p.1.vlan then .error (reserved p.1) else .ok (), m'') ∧ m'' = m.bound (done ++ [p]) := by
    rintro done p rest _ - rfl
    refine ⟨_, bind_answer ((bound_settings m done).connected.trans connected) p, ?_⟩
    unfold bound
    rw [List.map_append, List.foldl_append]
    rfl
  have mild (p : Key × Interface) : ¬(reserved p.1).isFatal := nofun
  have all : bindings = [] ++ bindings := rfl
  obtain ⟨m', run, rfl⟩ := run_batch Prod.fst mild step all rfl {}
  refine Eq.trans run ?_
  simp

/-- What a batch of bindings comes to. -/
structure BindsAll (m : Memory) (bindings : List (Key × Interface)) (report : Report) (m' : Memory) : Prop where
  total : report.total = bindings.length
  failed : report.failed =
    (bindings.filter fun p => ¬Vlan.Usable p.1.vlan).map fun p => (p.1, (reserved p.1).message)
  sound : report.IsSound
  counted : report.done + report.failed.length = report.total
  last : ∀ before k i later, bindings = before ++ (k, i) :: later → Vlan.Usable k.vlan →
    k ∉ later.map (·.1) → m'.table.find? k = some (.unicast k i)
  others : ∀ k, (k ∈ bindings.map (·.1) → ¬Vlan.Usable k.vlan) → m'.table.find? k = m.table.find? k
  /-- New keys come last, in the order of their first bindings. -/
  keys : m'.table.keys = m.table.keys ++
    ((bindings.map (·.1)).filter fun k => Vlan.Usable k.vlan ∧ k ∉ m.table.keys).eraseDups
  settings : m.table.SameSettings m'.table
  board : m'.board = m.board
  sent : m'.outbox = m.outbox ++ if m.table.watching then m.news bindings else []
  /-- The same bindings again leave the table alone, and the whole plane if each key is bound to one interface. -/
  again : ∃ m'', (plane.bindAll bindings).run.run m' = (.ok report, m'') ∧ m''.table = m'.table ∧
    (IsSingleValued bindings → m'' = m')

theorem exampleBindings_singleValued : IsSingleValued exampleBindings := by
  have one : ∀ p ∈ exampleBindings, p.2 = ⟨"Ethernet1", by decide⟩ := by simp [exampleBindings]
  intro k i j member member' _
  exact (one (k, i) member).trans (one (k, j) member').symm

/-- A batch of bindings is never cut short, and of the bindings of one key the last one counts. -/
theorem binds_to_last (operations : List Operation) (bindings : List (Key × Interface))
    (connected : (after operations).table.connected = true) :
    (∃ report m', (plane.bindAll bindings).run.run (after operations) = (.ok report, m') ∧
      BindsAll (after operations) bindings report m') ∧
    ∃ report m', plane.bindExamples.run.run (after operations) = (.ok report, m') ∧
      plane.bindExamples.run.run m' = (.ok report, m') := by
  have distinct := after_distinct operations
  generalize after operations = m at connected distinct ⊢
  have connected' (L : List (Key × Interface)) : (m.bound L).table.connected = true :=
    (bound_settings m L).connected.trans connected
  constructor
  · have sound := Report.isSound_of_filter bindings (fun p => ¬Vlan.Usable p.1.vlan)
      fun p => (p.1, (reserved p.1).message)
    refine ⟨_, _, run_bindAll connected bindings,
      { total := rfl, failed := rfl, sound, counted := Nat.sub_add_cancel sound,
        last := ?_, others := fun k => bound_others connected, keys := bound_keys connected bindings,
        settings := bound_settings m bindings, board := bound_board m bindings,
        sent := bound_outbox connected bindings, again := ?_ }⟩
    · rintro before k i later rfl usable last
      exact bound_last connected usable last
    · exact ⟨_, run_bindAll (connected' bindings) bindings, bound_bound connected distinct bindings,
        fun single => single.bound_bound connected⟩
  · have second := run_bindAll (connected' exampleBindings) exampleBindings
    rw [exampleBindings_singleValued.bound_bound connected] at second
    exact ⟨_, _, run_bindAll connected exampleBindings, second⟩

def uplink : Interface := ⟨"Ethernet5", by decide⟩

def downlink : Interface := ⟨"Ethernet6", by decide⟩

/-- A watched table with an entry that forwards to both. -/
def forked : List Operation := [.learn [.multicast ⟨1, .zero⟩ [uplink, downlink]], .ask (.watch true)]

/-- The key of that entry is bound twice, between a reserved key and a new one. -/
def rebinding : List (Key × Interface) :=
  [(⟨0, .zero⟩, uplink), (⟨1, .zero⟩, uplink), (⟨1, .zero⟩, downlink), (⟨2, .zero⟩, uplink)]

theorem binds_to_last_over_multicast : (after forked).table.connected = true ∧
    (∃ report m', (plane.bindAll rebinding).run.run (after forked) = (.ok report, m') ∧
      BindsAll (after forked) rebinding report m') ∧
    ∃ report m', plane.bindExamples.run.run (after forked) = (.ok report, m') ∧
      plane.bindExamples.run.run m' = (.ok report, m') :=
  ⟨rfl, binds_to_last forked rebinding rfl⟩

end Memory

end MacAgent
