import Mathlib.Data.List.TakeWhile
import MacAgent.Proofs.Memory.Ordered
import MacAgent.Proofs.Plane.Keeps

/-! # Entries behind the end of a traversal

A cursor over the keys of the table ends at the first empty key. An entry is set only with a usable VLAN,
so never with the empty key, but a learned entry is not checked: from the time when one with the empty
key is learned until it is deleted by that key, traversals do not reach it or what stands behind it. At
all other times they reach every entry. -/

namespace MacAgent

theorem Key.isEmpty_iff {k : Key} : k.isEmpty = true ↔ k = .empty := by
  rcases k with ⟨vlan, address⟩
  simp [isEmpty, empty, Address.isZero]

theorem Vlan.Usable.key_ne_empty {k : Key} (usable : Vlan.Usable k.vlan) : k ≠ .empty := by
  rintro rfl
  exact absurd usable.1 (by decide)

namespace Table

variable {t t' : Table} {e : Entry} {k : Key}

/-- The table is connected, and has no locked keys. -/
structure IsOpen (t : Table) : Prop where
  connected : t.connected = true
  unlocked : t.locked = []

theorem IsOpen.puts (h : t.IsOpen) (puts : t.Puts e t') : t'.IsOpen :=
  ⟨puts.connected.trans h.connected, puts.locked.trans h.unlocked⟩

theorem IsOpen.drops (h : t.IsOpen) (drops : t.Drops k t') : t'.IsOpen :=
  ⟨drops.connected.trans h.connected, drops.locked.trans h.unlocked⟩

/-- Without an empty key, a traversal does not end before the last key. -/
theorem takeWhile_keys (nonempty : Key.empty ∉ t.keys) : t.keys.takeWhile (!·.isEmpty) = t.keys := by
  refine List.takeWhile_eq_self_iff.mpr fun k stored => ?_
  rw [Bool.not_eq_true', Bool.eq_false_iff, Ne, Key.isEmpty_iff]
  rintro rfl
  exact nonempty stored

end Table

namespace Memory

variable {m m' : Memory} {r : Request} {op : Operation} {operations : List Operation}

/-! ### Where the empty key comes from -/

/-- Neither locks a key nor cuts the connection. -/
def Operation.IsOrdinary : Operation → Prop
  | learn _ | ask _ | elsewhere .. => True
  | lock _ | disconnect => False

/-- Learns an entry with the empty key. -/
def Operation.Strays (op : Operation) : Prop := ∃ entries, op = .learn entries ∧ ∃ e ∈ entries, e.key = .empty

/-- An entry with the empty key was learned, and the empty key has not been deleted since. -/
def HasStrayed (operations : List Operation) : Prop :=
  ∃ before op later, operations = before ++ op :: later ∧ op.Strays ∧ .ask (.delete .empty) ∉ later

theorem perform_isOpen (h : m.table.IsOpen) (ordinary : op.IsOrdinary) : (m.perform op).table.IsOpen := by
  cases op with
  | learn entries => exact Table.learn_induction h fun t e _ h => h.puts (t.upsert_puts e)
  | ask r =>
    refine answer_table (P := Table.IsOpen) m r h ?_ ?_ ?_
    · exact fun e _ _ => h.puts (m.table.upsert_puts e)
    · exact fun k t' _ drops => h.drops drops
    · exact fun on => ⟨h.connected, h.unlocked⟩
  | lock | disconnect => exact ordinary.elim
  | elsewhere => exact h

theorem after_isOpen (ordinary : ∀ op ∈ operations, op.IsOrdinary) : (after operations).table.IsOpen :=
  List.foldlRecOn (motive := fun m : Memory => m.table.IsOpen) operations perform ⟨rfl, rfl⟩
    fun _ h op member => perform_isOpen h (ordinary op member)

theorem exists_delete_ok (h : m.table.IsOpen) (k : Key) : ∃ m', m.answer (.delete k) = (.ok (), m') := by
  have free : k ∉ m.table.locked := by
    rw [h.unlocked]
    exact List.not_mem_nil
  exact ⟨_, delete_answer h.connected free⟩

/-- The empty key is in the table if it was learned just now, or was there and was not deleted. -/
theorem empty_mem_perform (h : m.table.IsOpen) (ordinary : op.IsOrdinary) :
    Key.empty ∈ (m.perform op).table.keys ↔
      op.Strays ∨ Key.empty ∈ m.table.keys ∧ op ≠ .ask (.delete .empty) := by
  cases op with
  | learn entries =>
    have learned : (m.perform (.learn entries)).table = (m.table.learn entries).1 := rfl
    rw [learned, Table.mem_keys_learn]
    simp [Operation.Strays]
  | ask r =>
    have checked : ¬(Operation.ask r).Strays := by
      rintro ⟨entries, heq, -⟩
      cases heq
    by_cases deletes : ∃ k, r = .delete k
    · obtain ⟨k, rfl⟩ := deletes
      obtain ⟨m', run⟩ := exists_delete_ok h k
      have dropped : m.perform (.ask (.delete k)) = m' := congrArg Prod.snd run
      rw [dropped, (delete_ok run).2.2.mem_keys]
      simp [checked, eq_comm]
    · have other : r ≠ .delete .empty := fun heq => deletes ⟨_, heq⟩
      have same : Key.empty ∈ (m.answer r).2.table.keys ↔ Key.empty ∈ m.table.keys := by
        refine answer_table (P := fun t => Key.empty ∈ t.keys ↔ Key.empty ∈ m.table.keys) m r .rfl ?_ ?_ ?_
        · intro e _ usable
          rw [(m.table.upsert_puts e).mem_keys]
          simp [usable.key_ne_empty]
        · exact fun k _ heq _ => absurd ⟨k, heq⟩ deletes
        · exact fun on => .rfl
      exact same.trans (by simp [checked, other])
  | lock | disconnect => exact ordinary.elim
  | elsewhere board outbox => simp [perform, Operation.Strays]

theorem hasStrayed_concat : HasStrayed (operations ++ [op]) ↔
    op.Strays ∨ HasStrayed operations ∧ op ≠ .ask (.delete .empty) := by
  constructor
  · rintro ⟨before, stray, later, split, strays, kept⟩
    rcases List.eq_nil_or_concat' later with rfl | ⟨later, last, rfl⟩
    · obtain ⟨rfl, rfl⟩ := List.append_singleton_inj.mp split
      exact .inl strays
    · rw [← List.cons_append, ← List.append_assoc] at split
      obtain ⟨rfl, rfl⟩ := List.append_singleton_inj.mp split
      rw [List.mem_append, List.mem_singleton, not_or] at kept
      exact .inr ⟨⟨before, stray, later, rfl, strays, kept.1⟩, Ne.symm kept.2⟩
  · rintro (strays | ⟨⟨before, stray, later, rfl, strays, kept⟩, other⟩)
    · exact ⟨operations, op, [], rfl, strays, List.not_mem_nil⟩
    · refine ⟨before, stray, later ++ [op], by simp, strays, ?_⟩
      rw [List.mem_append, List.mem_singleton, not_or]
      exact ⟨kept, Ne.symm other⟩

/-- The table holds the empty key exactly from its being learned to its being deleted. -/
theorem empty_mem_after (ordinary : ∀ op ∈ operations, op.IsOrdinary) :
    Key.empty ∈ (after operations).table.keys ↔ HasStrayed operations := by
  induction operations using List.reverseRecOn with
  | nil =>
    refine ⟨fun h => (by cases h), ?_⟩
    rintro ⟨before, op, later, split, -⟩
    simp at split
  | append_singleton operations op ih =>
    have ordinary' : ∀ op ∈ operations, op.IsOrdinary := fun op h =>
      ordinary op (List.mem_append_left _ h)
    have last : op.IsOrdinary := ordinary op (List.mem_append_right _ (List.mem_singleton_self op))
    rw [after_concat, empty_mem_perform (after_isOpen ordinary') last, hasStrayed_concat, ih ordinary']

/-! ### What traversals reach -/

/-- Deletes that all succeed remove the entries of the keys and no others. -/
theorem run_deletes (h : m.table.IsOpen) (keys : List Key) (r : Report) :
    ∃ m', (keys.foldlM (fun r k => batchStep (plane.delete k) k r) r).run.run m =
        (.ok { r with total := r.total + keys.length }, m') ∧
      m'.table.entries = m.table.entries.filter (·.key ∉ keys) := by
  induction keys generalizing m r with
  | nil => exact ⟨m, rfl, by simp⟩
  | cons k keys ih =>
    obtain ⟨m₁, deleted⟩ := exists_delete_ok h k
    have drops := (delete_ok deleted).2.2
    have first : (plane.delete k).run.run m = (.ok (), m₁) := deleted
    obtain ⟨m', rest, left⟩ := ih (h.drops drops) { r with total := r.total + 1 }
    refine ⟨m', ?_, ?_⟩
    · rw [List.foldlM_cons, run_bind_ok (run_batchStep_ok first k r), rest, List.length_cons]
      simp only [Nat.add_assoc, Nat.add_comm 1]
    · rw [left, drops.entries, List.filter_filter]
      simp [Bool.and_comm]

/-- Clearing the table removes the entries before the first empty key. -/
theorem run_clearAll (h : m.table.IsOpen) (bridge : Bridge) :
    ∃ m', (plane.clearAll bridge).run.run m =
        (.ok { total := (m.table.keys.takeWhile (!·.isEmpty)).length }, m') ∧
      m'.table.entries = m.table.entries.filter (·.key ∉ m.table.keys.takeWhile (!·.isEmpty)) := by
  have read : plane.keys.run.run m = (.ok m.table.keys, m) := answer_of_reaches (r := .keys) h.connected
  obtain ⟨m', run, left⟩ := run_deletes h (m.table.keys.takeWhile (!·.isEmpty)) {}
  refine ⟨m', ?_, left⟩
  unfold Plane.clearAll
  rw [run_bind_ok read, Plane.traverse_eq_foldlM (fun _ _ _ => rfl) rfl, run]
  simp

/-- Every entry is within the reach of traversals. -/
structure HidesNothing (m : Memory) : Prop where
  nonempty : Key.empty ∉ m.table.keys
  /-- The calls of a reader, by either bridge, give every key in table order, and then none. -/
  scanned : m.answer .keys = (.ok m.table.keys, m) ∧ ∀ bridge moves,
    ((Scan.start bridge m.table.keys m).run moves).replies =
      (List.range (moves.countP Scan.Move.isCall)).map (m.table.keys[·]?)
  /-- Clearing the table removes every entry. -/
  cleared : ∀ bridge, ∃ m', (plane.clearAll bridge).run.run m = (.ok { total := m.table.entries.length }, m') ∧
    m'.table.entries = []

theorem hidesNothing_of_nonempty (h : m.table.IsOpen) (nonempty : Key.empty ∉ m.table.keys) : m.HidesNothing := by
  have all := Table.takeWhile_keys nonempty
  refine ⟨nonempty, ⟨answer_of_reaches (r := .keys) h.connected, fun bridge moves => ?_⟩, fun bridge => ?_⟩
  · have told := (Scan.run_tells bridge m.table.keys m moves).2
    unfold Scan.Tells at told
    rw [told, all]
  · obtain ⟨m', run, left⟩ := run_clearAll h bridge
    rw [all] at run left
    refine ⟨m', ?_, ?_⟩
    · rw [run, Table.keys, List.length_map]
    · rw [left, List.filter_eq_nil_iff]
      intro e stored
      have listed : e.key ∈ m.table.keys := List.mem_map_of_mem stored
      simpa using listed

/-- Nothing is hidden, except while an entry with the empty key that was learned is in the table. -/
theorem hides_nothing_iff (ordinary : ∀ op ∈ operations, op.IsOrdinary) :
    (after operations).HidesNothing ↔ ¬HasStrayed operations := by
  rw [← empty_mem_after ordinary]
  exact ⟨HidesNothing.nonempty, hidesNothing_of_nonempty (after_isOpen ordinary)⟩

/-- An entry with the empty key that was learned and deleted again hides nothing. -/
theorem hides_nothing_once_deleted :
    (after [.learn [⟨.empty, default⟩, ⟨⟨1, .zero⟩, default⟩], .ask (.delete .empty)]).HidesNothing := by
  have ordinary : ∀ op ∈ [Operation.learn [⟨.empty, default⟩, ⟨⟨1, .zero⟩, default⟩], .ask (.delete .empty)],
      op.IsOrdinary := by
    simp [Operation.IsOrdinary]
  refine (hides_nothing_iff ordinary).mpr fun strayed => ?_
  rw [← empty_mem_after ordinary] at strayed
  exact absurd strayed (by decide)

/-- An entry with the empty key that was learned hides itself and the entry behind it: a reader is told at
once that there are no keys, and clearing the table removes nothing. -/
theorem learned_empty_key_hides :
    (after [.learn [⟨.empty, default⟩, ⟨⟨1, .zero⟩, default⟩]]).table.keys = [.empty, ⟨1, .zero⟩] ∧
    ((Scan.start .inline [.empty, ⟨1, .zero⟩] (after [.learn [⟨.empty, default⟩, ⟨⟨1, .zero⟩, default⟩]])).run
      [.next 0]).replies = [none] ∧
    ((plane.clearAll .inline).run.run
      (after [.learn [⟨.empty, default⟩, ⟨⟨1, .zero⟩, default⟩]])).2.table.keys = [.empty, ⟨1, .zero⟩] ∧
    ¬(after [.learn [⟨.empty, default⟩, ⟨⟨1, .zero⟩, default⟩]]).HidesNothing :=
  ⟨rfl, rfl, rfl, fun h => h.nonempty (by decide)⟩

end Memory

end MacAgent
