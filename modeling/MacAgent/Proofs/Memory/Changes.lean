import Mathlib.Data.List.Nodup
import MacAgent.Proofs.Memory.Frame

/-! # What changes of the table do

The table is a map in the order in which its keys came in. Putting an entry in replaces the one with its
key where that stands, or comes last; a deletion takes one key out. Neither touches the entry of any
other key or the order of the other keys, so the keys stay distinct whatever is done to the plane. -/

namespace MacAgent

namespace Table

variable {t t' : Table} {e : Entry} {k : Key}

theorem find?_eq_none : t.find? k = none ↔ k ∉ t.keys := by
  simp [find?, keys]

theorem mem_keys_iff : k ∈ t.keys ↔ t.find? k ≠ none := by
  rw [Ne, find?_eq_none, not_not]

theorem mem_keys_of_find? (h : t.find? k = some e) : k ∈ t.keys := by
  by_contra absent
  rw [find?_eq_none.mpr absent] at h
  cases h

theorem find?_key (h : t.find? k = some e) : e.key = k := by
  simpa using List.find?_some h

/-! ### Putting an entry in -/

/-- `t'` is `t` with the entry put in: in the place of the one with its key, or after all others. -/
structure Puts (e : Entry) (t t' : Table) : Prop where
  found : t'.find? e.key = some e
  others : ∀ k, k ≠ e.key → t'.find? k = t.find? k
  keys : t'.keys = if e.key ∈ t.keys then t.keys else t.keys ++ [e.key]
  watching : t'.watching = t.watching
  locked : t'.locked = t.locked
  connected : t'.connected = t.connected

/-- An entry in the place of the one with its key. -/
def replace (e : Entry) (l : List Entry) : List Entry := l.map fun x => if x.key = e.key then e else x

theorem replace_keys (l : List Entry) : (replace e l).map (·.key) = l.map (·.key) := by
  unfold replace
  rw [List.map_map]
  refine List.map_congr_left fun x _ => ?_
  rw [Function.comp_apply]
  split
  · rename_i same
    exact same.symm
  · rfl

theorem find?_replace_self {l : List Entry} (h : e.key ∈ l.map (·.key)) :
    (replace e l).find? (·.key = e.key) = some e := by
  induction l with
  | nil => cases h
  | cons x l ih =>
    by_cases same : x.key = e.key
    · simp [replace, same]
    · have rest : e.key ∈ l.map (·.key) := (List.mem_cons.mp h).resolve_left fun eq => same eq.symm
      simpa [replace, same] using ih rest

theorem find?_replace_of_ne {l : List Entry} (h : k ≠ e.key) :
    (replace e l).find? (·.key = k) = l.find? (·.key = k) := by
  induction l with
  | nil => rfl
  | cons x l ih =>
    by_cases same : x.key = e.key
    · have other : ¬x.key = k := fun eq => h (eq.symm.trans same)
      simpa [replace, same, other, h.symm] using ih
    · by_cases sought : x.key = k
      · simp [replace, sought, h]
      · simpa [replace, same, sought] using ih

theorem upsert_puts (t : Table) (e : Entry) : t.Puts e (t.upsert e).1 := by
  unfold upsert
  split
  · rename_i old found
    have present := mem_keys_of_find? found
    split
    · rename_i same
      subst same
      exact ⟨found, fun _ _ => rfl, (if_pos present).symm, rfl, rfl, rfl⟩
    · refine ⟨find?_replace_self present, fun k other => find?_replace_of_ne other, ?_, rfl, rfl, rfl⟩
      rw [if_pos present]
      exact replace_keys t.entries
  · rename_i missing
    refine ⟨?_, fun k other => ?_, ?_, rfl, rfl, rfl⟩
    · have missing : t.entries.find? (·.key = e.key) = none := missing
      simp [find?, missing]
    · simp [find?, other.symm]
    · rw [if_neg (find?_eq_none.mp missing)]
      simp [keys]

theorem find?_upsert (t : Table) (e : Entry) (k : Key) :
    (t.upsert e).1.find? k = if e.key = k then some e else t.find? k := by
  have puts := t.upsert_puts e
  split
  · rename_i same
    subst same
    exact puts.found
  · rename_i other
    exact puts.others k (Ne.symm other)

theorem upsert_of_find? (h : t.find? e.key = some e) : t.upsert e = (t, none) := by
  unfold upsert
  rw [h]
  exact if_pos rfl

/-- A change is announced, and nothing else is. -/
theorem upsert_event (t : Table) (e : Entry) :
    (t.upsert e).2 = if t.find? e.key = some e then none else t.announce (.entrySet e) := by
  split
  · rename_i same
    rw [upsert_of_find? same]
  · rename_i other
    unfold upsert
    split
    · rename_i old found
      rw [if_neg]
      rintro rfl
      exact other found
    · rfl

theorem Puts.distinct (h : t.Puts e t') (distinct : t.keys.Nodup) : t'.keys.Nodup := by
  rw [h.keys]
  split
  · exact distinct
  · rename_i absent
    exact List.nodup_append_comm.mp (List.nodup_cons.mpr ⟨absent, distinct⟩)

theorem Puts.mem_keys (h : t.Puts e t') : k ∈ t'.keys ↔ e.key = k ∨ k ∈ t.keys := by
  rw [h.keys]
  split
  · rename_i present
    refine ⟨.inr, ?_⟩
    rintro (rfl | old)
    · exact present
    · exact old
  · rw [List.mem_append, List.mem_singleton, or_comm, eq_comm]

/-! ### Taking a key out -/

/-- `t'` is `t` without the entry for the key. -/
structure Drops (k : Key) (t t' : Table) : Prop where
  entries : t'.entries = t.entries.filter (·.key ≠ k)
  gone : t'.find? k = none
  others : ∀ k', k' ≠ k → t'.find? k' = t.find? k'
  keys : t'.keys = t.keys.filter (· ≠ k)
  watching : t'.watching = t.watching
  locked : t'.locked = t.locked
  connected : t'.connected = t.connected

theorem find?_filter_ne {l : List Entry} {k' : Key} (h : k' ≠ k) :
    (l.filter (·.key ≠ k)).find? (·.key = k') = l.find? (·.key = k') := by
  rw [List.find?_filter]
  congr 1
  funext x
  by_cases sought : x.key = k'
  · simp [sought, h]
  · simp [sought]

theorem delete_drops {event? : Option Event} (h : t.delete k = .ok (t', event?)) :
    k ∉ t.locked ∧ t.Drops k t' := by
  unfold delete at h
  split at h
  · cases h
  · rename_i free
    split at h
    · cases h
      refine ⟨free, rfl, ?_, fun k' other => find?_filter_ne other, ?_, rfl, rfl, rfl⟩
      · simp [find?]
      · simp [keys, List.filter_map, Function.comp_def]
    · rename_i missing
      cases h
      have missing : t.find? k = none := by simpa using missing
      have other : ∀ k' ∈ t.keys, k' ≠ k := by
        rintro k' present rfl
        exact find?_eq_none.mp missing present
      refine ⟨free, (List.filter_eq_self.mpr fun x stored => ?_).symm, missing, fun _ _ => rfl,
        (List.filter_eq_self.mpr fun k' present => ?_).symm, rfl, rfl, rfl⟩
      · simpa using other x.key (List.mem_map_of_mem stored)
      · simpa using other k' present

theorem Drops.distinct (h : t.Drops k t') (distinct : t.keys.Nodup) : t'.keys.Nodup := by
  rw [h.keys]
  exact distinct.filter _

theorem Drops.mem_keys {k' : Key} (h : t.Drops k t') : k' ∈ t'.keys ↔ k' ∈ t.keys ∧ k' ≠ k := by
  rw [h.keys]
  simp

/-! ### Refusing -/

theorem install_eq_error {fault : Fault} : t.install e = .error fault ↔
    ¬Vlan.Usable e.key.vlan ∧ fault = .invalidEntry e.key "0 and 4095 are reserved VLAN IDs" := by
  unfold install
  split
  · rename_i usable
    exact ⟨fun h => (by cases h), fun h => absurd usable h.1⟩
  · rename_i reserved
    refine ⟨fun h => ⟨reserved, (Except.error.inj h).symm⟩, ?_⟩
    rintro ⟨-, rfl⟩
    rfl

theorem delete_eq_error {fault : Fault} : t.delete k = .error fault ↔
    k ∈ t.locked ∧ fault = .rejected "mac_entry_del" (k.render ++ " is locked") := by
  unfold delete
  split
  · rename_i locked
    refine ⟨fun h => ⟨locked, (Except.error.inj h).symm⟩, ?_⟩
    rintro ⟨-, rfl⟩
    rfl
  · rename_i free
    refine ⟨fun h => ?_, fun h => absurd h.1 free⟩
    split at h
    · cases h
    · cases h

theorem delete_eq_ok (free : k ∉ t.locked) : t.delete k =
    .ok ({ t with entries := t.entries.filter (·.key ≠ k) },
      if k ∈ t.keys then t.announce (.entryDeleted k) else none) := by
  cases found : t.find? k with
  | some e => simp [delete, free, found, mem_keys_of_find? found]
  | none =>
    have absent := find?_eq_none.mp found
    have same : t.entries.filter (·.key ≠ k) = t.entries := by
      refine List.filter_eq_self.mpr fun e stored => decide_eq_true ?_
      rintro rfl
      exact absent (List.mem_map_of_mem stored)
    rw [if_neg absent, same]
    simp [delete, free, found]

/-! ### Learning -/

/-- What putting each of the entries in keeps, learning them keeps. -/
theorem learn_induction {P : Table → Prop} {entries : List Entry} (h : P t)
    (put : ∀ t, ∀ e ∈ entries, P t → P (t.upsert e).1) : P (t.learn entries).1 := by
  induction entries generalizing t with
  | nil => exact h
  | cons e rest ih =>
    exact ih (put t e List.mem_cons_self h) fun t e' he' => put t e' (List.mem_cons_of_mem e he')

theorem learn_append (t : Table) (entries entries' : List Entry) :
    t.learn (entries ++ entries') =
      (((t.learn entries).1.learn entries').1,
        (t.learn entries).2 ++ ((t.learn entries).1.learn entries').2) := by
  induction entries generalizing t with
  | nil => rfl
  | cons e rest ih => simp only [List.cons_append, learn, ih, List.append_assoc]

theorem mem_keys_learn {entries : List Entry} :
    k ∈ (t.learn entries).1.keys ↔ (∃ e ∈ entries, e.key = k) ∨ k ∈ t.keys := by
  induction entries generalizing t with
  | nil => simp [learn]
  | cons e rest ih =>
    have rest_keys : k ∈ (t.learn (e :: rest)).1.keys ↔
        (∃ e ∈ rest, e.key = k) ∨ k ∈ (t.upsert e).1.keys := ih
    rw [rest_keys, (t.upsert_puts e).mem_keys, List.exists_mem_cons_iff, or_assoc, or_left_comm]

/-! ### Lookup and membership -/

/-- Where the keys are distinct, the entry found for a key is the only one with it. -/
theorem find?_eq_some_iff (distinct : t.keys.Nodup) : t.find? k = some e ↔ e ∈ t.entries ∧ e.key = k := by
  constructor
  · intro found
    exact ⟨List.mem_of_find?_eq_some found, find?_key found⟩
  · rintro ⟨stored, rfl⟩
    cases found : t.find? e.key with
    | none => exact absurd (List.mem_map_of_mem stored) (find?_eq_none.mp found)
    | some e' =>
      have stored' := List.mem_of_find?_eq_some found
      rw [List.inj_on_of_nodup_map distinct stored' stored (find?_key found)]

/-- A table is determined by the order of its keys and by what is found for them. -/
theorem entries_eq_of_find? (distinct : t.keys.Nodup) (keys : t'.keys = t.keys)
    (found : ∀ k, t'.find? k = t.find? k) : t'.entries = t.entries := by
  have all (u : Table) (distinct : u.keys.Nodup) : u.keys.filterMap u.find? = u.entries := by
    unfold Table.keys
    rw [List.filterMap_map]
    refine (List.filterMap_congr fun e stored => ?_).trans List.filterMap_some
    exact (find?_eq_some_iff distinct).mpr ⟨stored, rfl⟩
  rw [← all t distinct, ← all t' (keys ▸ distinct), keys]
  exact List.filterMap_congr fun k _ => found k

end Table

namespace Memory

variable {m m' : Memory} {r : Request} {e : Entry} {k : Key} {fault : Fault}

/-! ### Requests -/

theorem updateTable_ok {result : Except Fault (Table × Option Event)}
    (h : m.updateTable result = (.ok (), m')) : ∃ event?, result = .ok (m'.table, event?) := by
  rcases result with _ | ⟨t, event?⟩
  · cases h
  · cases h
    exact ⟨event?, rfl⟩

theorem updateTable_error {result : Except Fault (Table × Option Event)}
    (h : m.updateTable result = (.error fault, m')) : result = .error fault ∧ m' = m := by
  rcases result with _ | ⟨t, event?⟩
  · cases h
    exact ⟨rfl, rfl⟩
  · cases h

theorem reaches_of_ok {a : r.Answer} (h : m.answer r = (.ok a, m')) : m.reaches r = true := by
  by_contra cut
  rw [answer_of_not_reaches cut] at h
  cases h

theorem install_ok (h : m.answer (.install e) = (.ok (), m')) :
    m.table.connected = true ∧ Vlan.Usable e.key.vlan ∧ m'.table = (m.table.upsert e).1 := by
  have reached := reaches_of_ok h
  rw [answer_of_reaches reached] at h
  obtain ⟨event?, done⟩ := updateTable_ok h
  unfold Table.install at done
  split at done
  · rename_i usable
    exact ⟨reached, usable, (congrArg Prod.fst (Except.ok.inj done)).symm⟩
  · cases done

theorem delete_ok (h : m.answer (.delete k) = (.ok (), m')) :
    m.table.connected = true ∧ k ∉ m.table.locked ∧ m.table.Drops k m'.table := by
  have reached := reaches_of_ok h
  rw [answer_of_reaches reached] at h
  obtain ⟨event?, done⟩ := updateTable_ok h
  exact ⟨reached, Table.delete_drops done⟩

/-- The requests that a plane refuses, each with the fault that says why. -/
inductive Refuses (m : Memory) : Request → Fault → Prop where
  | disconnected (r : Request) (cut : m.reaches r = false) : Refuses m r (.disconnected r.name)
  | invalidEntry (e : Entry) (reached : m.table.connected = true) (reserved : ¬Vlan.Usable e.key.vlan) :
      Refuses m (.install e) (.invalidEntry e.key "0 and 4095 are reserved VLAN IDs")
  | rejected (k : Key) (reached : m.table.connected = true) (locked : k ∈ m.table.locked) :
      Refuses m (.delete k) (.rejected "mac_entry_del" (k.render ++ " is locked"))

theorem Refuses.answer (h : m.Refuses r fault) : m.answer r = (.error fault, m) := by
  cases h with
  | disconnected _ cut => exact answer_of_not_reaches (Bool.eq_false_iff.mp cut)
  | invalidEntry e reached reserved =>
    rw [answer_of_reaches (r := .install e) reached]
    exact congrArg m.updateTable (Table.install_eq_error.mpr ⟨reserved, rfl⟩)
  | rejected k reached locked =>
    rw [answer_of_reaches (r := .delete k) reached]
    exact congrArg m.updateTable (Table.delete_eq_error.mpr ⟨locked, rfl⟩)

theorem install_answer (reached : m.table.connected = true) (usable : Vlan.Usable e.key.vlan) :
    m.answer (.install e) = (.ok (), { m with table := (m.table.upsert e).1 }.send (m.table.upsert e).2.toList) := by
  rw [answer_of_reaches (r := .install e) reached]
  show m.updateTable (m.table.install e) = _
  rw [Table.install, if_pos usable]
  rfl

theorem delete_answer (reached : m.table.connected = true) (free : k ∉ m.table.locked) :
    m.answer (.delete k) = (.ok (), { m with
      table := { m.table with entries := m.table.entries.filter (·.key ≠ k) } }.send
        (if k ∈ m.table.keys then m.table.announce (.entryDeleted k) else none).toList) := by
  rw [answer_of_reaches (r := .delete k) reached]
  exact congrArg m.updateTable (Table.delete_eq_ok free)

/-- A request that fails was refused, and leaves the plane as it was. -/
theorem answer_error (h : m.answer r = (.error fault, m')) : m.Refuses r fault ∧ m' = m := by
  cases reached : m.reaches r with
  | false =>
    rw [answer_of_not_reaches (Bool.eq_false_iff.mp reached)] at h
    cases h
    exact ⟨.disconnected r reached, rfl⟩
  | true =>
    rw [answer_of_reaches reached] at h
    cases r with
    | install e =>
      obtain ⟨failed, rfl⟩ := updateTable_error h
      obtain ⟨reserved, rfl⟩ := Table.install_eq_error.mp failed
      exact ⟨.invalidEntry e reached reserved, rfl⟩
    | delete k =>
      obtain ⟨failed, rfl⟩ := updateTable_error h
      obtain ⟨locked, rfl⟩ := Table.delete_eq_error.mp failed
      exact ⟨.rejected k reached locked, rfl⟩
    | option | optionValues | status | publish | acknowledge | keys | lookup | watch => cases h

/-- A request leaves the table alone, puts an entry with a usable VLAN in, takes a key out, or turns the
notifications on or off. -/
theorem answer_table {P : Table → Prop} (m : Memory) (r : Request) (kept : P m.table)
    (put : ∀ e, r = .install e → Vlan.Usable e.key.vlan → P (m.table.upsert e).1)
    (drop : ∀ k t', r = .delete k → m.table.Drops k t' → P t')
    (watch : ∀ on, P { m.table with watching := on }) : P (m.answer r).2.table := by
  rcases run : m.answer r with ⟨fault | a, m'⟩
  · obtain ⟨-, rfl⟩ := answer_error run
    exact kept
  · cases r with
    | install e =>
      obtain ⟨-, usable, done⟩ := install_ok run
      exact done ▸ put e rfl usable
    | delete k =>
      obtain ⟨-, -, drops⟩ := delete_ok run
      exact drop k _ rfl drops
    | watch on =>
      rw [answer_of_reaches (reaches_of_ok run)] at run
      cases run
      exact watch on
    | option | optionValues | status | publish | acknowledge | keys | lookup =>
      rw [answer_of_reaches (reaches_of_ok run)] at run
      cases run
      exact kept

/-! ### Operations -/

theorem learn_append (m : Memory) (entries entries' : List Entry) :
    m.learn (entries ++ entries') = (m.learn entries).learn entries' := by
  simp only [learn, Table.learn_append, send, List.append_assoc]

/-- What can happen to a plane in memory. -/
inductive Operation where
  | learn (entries : List Entry)
  | ask (r : Request)
  | lock (k : Key)
  | disconnect
  /-- The outside changes the board, or takes sent events. -/
  | elsewhere (board : Board) (outbox : List Event)

def perform (m : Memory) : Operation → Memory
  | .learn entries => m.learn entries
  | .ask r => (m.answer r).2
  | .lock k => { m with table := m.table.lock k }
  | .disconnect => { m with table := m.table.disconnect }
  | .elsewhere board outbox => { m with board, outbox }

/-- A plane that started with an empty table, after some operations. -/
def after (operations : List Operation) : Memory := operations.foldl perform {}

theorem after_concat (operations : List Operation) (op : Operation) :
    after (operations ++ [op]) = (after operations).perform op := by
  simp [after]

theorem perform_distinct (distinct : m.table.keys.Nodup) (op : Operation) :
    (m.perform op).table.keys.Nodup := by
  cases op with
  | learn entries =>
    exact Table.learn_induction distinct fun t e _ distinct => (t.upsert_puts e).distinct distinct
  | ask r =>
    refine answer_table (P := fun t => t.keys.Nodup) m r distinct ?_ ?_ ?_
    · exact fun e _ _ => (m.table.upsert_puts e).distinct distinct
    · exact fun k t' _ drops => drops.distinct distinct
    · exact fun on => distinct
  | lock | disconnect | elsewhere => exact distinct

/-- No two entries of a table have the same key. -/
theorem after_distinct (operations : List Operation) : (after operations).table.keys.Nodup :=
  List.foldlRecOn (motive := fun m : Memory => m.table.keys.Nodup) operations perform .nil
    fun _ distinct op _ => perform_distinct distinct op

end Memory

end MacAgent
