import Mathlib.Data.Stream.Init
import MacAgent.Proofs.Memory.Sentinel
import MacAgent.Proofs.Memory.Writes
import MacAgent.Proofs.Plane.Batch

/-! # Clearing a table that others write

To clear the table is to delete the keys that it had when the cursor over them was made, one after another.
Between these requests other clients can write the table. Whatever they write, no other key is deleted, and a key
that is deleted comes back only if one of them puts it in again. -/

namespace MacAgent

/-- The plane in memory, shared with other clients: what they write after each of the requests to come. -/
structure Shared where
  memory : Memory
  others : Stream' (List Write)

namespace Shared

/-- The others write, after a request that leaves the memory like this. -/
def turn (s : Shared) (m : Memory) : Shared :=
  { memory := s.others.head.foldl Write.perform m, others := s.others.tail }

def answer (r : Request) (s : Shared) : Except Fault r.Answer × Shared :=
  let (answer, memory) := s.memory.answer r
  (answer, s.turn memory)

def plane (lead : Shared → Nat) : Plane Shared where
  answer := answer
  lead := lead

/-- What comes of clearing the table from here on. -/
def clear (lead : Shared → Nat) (bridge : Bridge) (s : Shared) : Except Fault Report × Recorded Shared :=
  ((plane lead).recorded.clearAll bridge).run.run { plane := s }

variable {lead : Shared → Nat}

theorem answer_of {r : Request} {s : Shared} {a : Except Fault r.Answer} {m : Memory}
    (h : s.memory.answer r = (a, m)) : (plane lead).answer r s = (a, s.turn m) := by
  show answer r s = _
  unfold answer
  rw [h]

end Shared

namespace Memory

/-- Why a locked key is not deleted. -/
def refusal (k : Key) : Fault := .rejected "mac_entry_del" (k.render ++ " is locked")

/-- How the plane answers a delete while these keys are locked. -/
def deletion (locked : List Key) (k : Key) : Exchange :=
  ⟨.delete k, if k ∈ locked then .error (refusal k) else .ok ()⟩

/-- The plane after it has deleted the keys that are not locked, each of which was in the table. -/
def without (m : Memory) (keys : List Key) : Memory :=
  { m with
    table := { m.table with entries := m.table.entries.filter fun e => e.key ∈ keys → e.key ∈ m.table.locked }
    outbox := m.outbox ++ (keys.filter (· ∉ m.table.locked)).filterMap (m.table.announce <| .entryDeleted ·) }

/-- What has been done when `done` are the keys that were deleted. -/
structure Cleared (m : Memory) (others : Stream' (List Write)) (done : List Key) (t : Recorded Shared) : Prop where
  calls : t.exchanges = ⟨.keys, .ok m.table.keys⟩ :: done.map (deletion m.table.locked)
  rest : t.plane.others = others.drop (done.length + 1)
  settings : m.table.SameSettings t.plane.memory.table
  kept : ∀ k, (k ∈ done → k ∈ m.table.locked) → t.plane.memory.table.find? k =
    ((others.take (done.length + 1)).flatten.foldl Write.perform m).table.find? k
  gone : ∀ before k later, done = before ++ k :: later → k ∉ m.table.locked →
    k ∈ t.plane.memory.table.keys →
      ∃ i, before.length < i ∧ i ≤ done.length ∧ ∃ w ∈ others.get i, w.Installs k
  alone : (∀ i, others.get i = []) → t.plane.memory = m.without done

variable {m : Memory} {others : Stream' (List Write)} {t : Recorded Shared} {done : List Key} {k : Key}
  {lead : Shared → Nat}

theorem without_nil (m : Memory) : m.without [] = m := by
  simp [without]

theorem delete_without (connected : m.table.connected = true) (stored : k ∈ m.table.keys) (fresh : k ∉ done) :
    (Write.delete k).perform (m.without done) = m.without (done ++ [k]) := by
  show ((m.without done).answer (.delete k)).2 = _
  by_cases locked : k ∈ m.table.locked
  · have entries : m.table.entries.filter (fun e => e.key ∈ done ++ [k] → e.key ∈ m.table.locked) =
        m.table.entries.filter fun e => e.key ∈ done → e.key ∈ m.table.locked := by
      refine List.filter_congr fun e _ => decide_eq_decide.mpr ?_
      grind
    have told : (done ++ [k]).filter (· ∉ m.table.locked) = done.filter (· ∉ m.table.locked) := by
      simp [locked]
    rw [(Refuses.rejected (m := m.without done) k connected locked).answer]
    unfold without
    rw [entries, told]
  · have present : k ∈ (m.without done).table.keys := by
      obtain ⟨e, member, rfl⟩ := List.mem_map.mp stored
      exact List.mem_map_of_mem (List.mem_filter.mpr ⟨member, decide_eq_true fun gone => absurd gone fresh⟩)
    have entries : (m.table.entries.filter fun e => e.key ∈ done → e.key ∈ m.table.locked).filter (·.key ≠ k) =
        m.table.entries.filter fun e => e.key ∈ done ++ [k] → e.key ∈ m.table.locked := by
      rw [List.filter_filter]
      refine List.filter_congr fun e _ => ?_
      grind
    have told : (done ++ [k]).filter (· ∉ m.table.locked) = done.filter (· ∉ m.table.locked) ++ [k] := by
      simp [locked]
    rw [delete_answer (m := m.without done) connected locked, if_pos present]
    unfold without send
    rw [told, List.filterMap_append, ← List.append_assoc, ← entries]
    rfl

theorem cleared_nil (m : Memory) (others : Stream' (List Write)) : Cleared m others []
    { plane := (Shared.mk m others).turn m, exchanges := [⟨.keys, .ok m.table.keys⟩] } where
  calls := rfl
  rest := rfl
  settings := Write.foldl_settings others.head m
  kept k _ := by simp [Shared.turn, Stream'.take_succ]
  gone before k later split := by simp at split
  alone idle := by
    show others.head.foldl Write.perform m = _
    rw [show others.head = [] from idle 0, without_nil]
    rfl

/-- The state after a key has been deleted, and the others have written. -/
def struck (t : Recorded Shared) (k : Key) : Recorded Shared :=
  { t with
    plane := ⟨(.delete k :: t.plane.others.head).foldl Write.perform t.plane.memory, t.plane.others.tail⟩
    exchanges := t.exchanges ++ [deletion t.plane.memory.table.locked k] }

theorem run_delete (connected : t.plane.memory.table.connected = true) (k : Key) :
    ((Shared.plane lead).recorded.delete k).run.run t =
      (if k ∈ t.plane.memory.table.locked then .error (refusal k) else .ok (), struck t k) := by
  refine Recorded.run_call (Shared.answer_of (m := (Write.delete k).perform t.plane.memory) (Prod.ext ?_ rfl))
  by_cases locked : k ∈ t.plane.memory.table.locked
  · rw [(Refuses.rejected k connected locked).answer, if_pos locked]
    rfl
  · rw [delete_answer connected locked, if_neg locked]
    rfl

namespace Cleared

theorem connected (h : Cleared m others done t) (connected : m.table.connected = true) :
    t.plane.memory.table.connected = true := h.settings.connected.trans connected

theorem head (h : Cleared m others done t) : t.plane.others.head = others.get (done.length + 1) := by
  rw [h.rest, Stream'.head_drop]

theorem kept_struck (h : Cleared m others done t) (connected : m.table.connected = true) {k' : Key}
    (spared : k' ∈ done ++ [k] → k' ∈ m.table.locked) : (struck t k).plane.memory.table.find? k' =
      ((others.take (done.length + 2)).flatten.foldl Write.perform m).table.find? k' := by
  have before := Write.foldl_settings (others.take (done.length + 1)).flatten m
  have same := h.kept k' fun earlier => spared (List.mem_append_left _ earlier)
  have undone : ¬(k = k' ∧ k' ∉ t.plane.memory.table.locked) := by
    rintro ⟨rfl, free⟩
    rw [h.settings.locked] at free
    exact free (spared (List.mem_append_right _ (List.mem_singleton_self k)))
  calc (struck t k).plane.memory.table.find? k'
    _ = t.plane.others.head.foldl (Write.follow t.plane.memory.table.locked k') (t.plane.memory.table.find? k') := by
      rw [struck, Write.find?_foldl (h.connected connected), List.foldl_cons]
      exact congrArg (List.foldl _ · _) (if_neg undone)
    _ = _ := by
      rw [Stream'.take_succ', List.flatten_append, List.flatten_singleton, List.foldl_append,
        Write.find?_foldl (before.connected.trans connected), before.locked, h.settings.locked, h.head, same]

theorem gone_struck (h : Cleared m others done t) (connected : m.table.connected = true) {before later : List Key}
    {k' : Key} (split : done ++ [k] = before ++ k' :: later) (free : k' ∉ m.table.locked)
    (stored : k' ∈ (struck t k).plane.memory.table.keys) :
    ∃ i, before.length < i ∧ i ≤ done.length + 1 ∧ ∃ w ∈ others.get i, w.Installs k' := by
  have connected' := h.connected connected
  have deleted := (Write.perform_settings (.delete k) t.plane.memory).connected.trans connected'
  rcases Write.installs_of_mem_keys deleted t.plane.others.head stored with there | ⟨w, member, installs⟩
  · -- The key was put in again before this delete, which is of another key.
    rw [Table.mem_keys_iff, Write.find?_perform connected', h.settings.locked] at there
    have there' : k' ∈ t.plane.memory.table.keys := by
      refine Table.mem_keys_iff.mpr fun missing => there ?_
      rw [missing]
      exact ite_self none
    rcases List.eq_nil_or_concat' later with rfl | ⟨later, last, rfl⟩
    · obtain ⟨-, rfl⟩ := List.append_singleton_inj.mp split
      exact absurd (if_pos ⟨rfl, free⟩) there
    · rw [← List.cons_append, ← List.append_assoc] at split
      obtain ⟨i, after, bound, installed⟩ := h.gone before k' later (List.append_singleton_inj.mp split).1 free there'
      exact ⟨i, after, Nat.le_succ_of_le bound, installed⟩
  · have length := congrArg List.length split
    simp only [List.length_append, List.length_cons, List.length_nil] at length
    exact ⟨done.length + 1, by omega, le_rfl, w, h.head ▸ member, installs⟩

theorem struck (h : Cleared m others done t) (connected : m.table.connected = true)
    (stored : k ∈ m.table.keys) (fresh : k ∉ done) : Cleared m others (done ++ [k]) (struck t k) := by
  have size : (done ++ [k]).length = done.length + 1 := List.length_append
  refine
    { calls := ?_, rest := ?_, settings := ?_, kept := fun k' spared => ?_, gone := fun before k' later split => ?_,
      alone := fun idle => ?_ }
  · show t.exchanges ++ [deletion t.plane.memory.table.locked k] = _
    rw [h.calls, h.settings.locked]
    simp
  · show t.plane.others.tail = _
    rw [size, h.rest, Stream'.tail_drop']
  · exact h.settings.trans (Write.foldl_settings (.delete k :: t.plane.others.head) t.plane.memory)
  · rw [size]
    exact h.kept_struck connected spared
  · rw [size]
    exact h.gone_struck connected split
  · show t.plane.others.head.foldl Write.perform ((Write.delete k).perform t.plane.memory) = _
    rw [h.head, idle, h.alone idle]
    exact delete_without connected stored fresh

/-- The next key is deleted. -/
theorem delete {rest : List Key} (h : Cleared m others done t) (connected : m.table.connected = true)
    (distinct : m.table.keys.Nodup) (split : m.table.keys = done ++ k :: rest) :
    ∃ u, ((Shared.plane lead).recorded.delete k).run.run t =
      (if k ∈ m.table.locked then .error (refusal k) else .ok (), u) ∧ Cleared m others (done ++ [k]) u := by
  have stored : k ∈ m.table.keys := by
    rw [split]
    exact List.mem_append_right _ List.mem_cons_self
  have fresh : k ∉ done := by
    rw [split] at distinct
    exact fun earlier => (List.nodup_append.mp distinct).2.2 k earlier k List.mem_cons_self rfl
  refine ⟨_, ?_, h.struck connected stored fresh⟩
  rw [← h.settings.locked]
  exact run_delete (h.connected connected) k

theorem congr {t' : Recorded Shared} (h : Cleared m others done t) (plane : t'.plane = t.plane)
    (exchanges : t'.exchanges = t.exchanges) : Cleared m others done t' := by
  obtain ⟨calls, rest, settings, kept, gone, alone⟩ := h
  rw [← exchanges] at calls
  rw [← plane] at rest settings kept gone alone
  exact ⟨calls, rest, settings, kept, gone, alone⟩

end Cleared

theorem clear_cleared (connected : m.table.connected = true) (distinct : m.table.keys.Nodup)
    (nonempty : Key.empty ∉ m.table.keys) (others : Stream' (List Write)) (lead : Shared → Nat) (bridge : Bridge) :
    ∃ t, Shared.clear lead bridge ⟨m, others⟩ = (.ok ⟨m.table.keys.length,
      (m.table.keys.filter (· ∈ m.table.locked)).map fun k => (k, (refusal k).message)⟩, t) ∧
        Cleared m others m.table.keys t := by
  have mild (k : Key) : ¬(refusal k).isFatal := nofun
  obtain ⟨u, run, cleared⟩ := run_batch id mild
    (fun _ _ _ _ split h => h.delete connected distinct split) (List.nil_append _) (cleared_nil m others) {}
  have read : (Shared.plane lead).recorded.keys.run.run { plane := ⟨m, others⟩ } = _ :=
    Recorded.run_call (r := .keys) (Shared.answer_of (answer_of_reaches connected))
  obtain ⟨t, cleared', plane, exchanges⟩ :=
    Recorded.run_clearAll (fun _ _ _ => rfl) read (Table.takeWhile_keys nonempty) run bridge
  refine ⟨t, cleared'.trans ?_, cleared.congr plane exchanges⟩
  simp [Table.keys]

theorem without_keys (m : Memory) : m.without m.table.keys = { m with
    table := { m.table with entries := m.table.entries.filter (·.key ∈ m.table.locked) }
    outbox := m.outbox ++
      (m.table.keys.filter (· ∉ m.table.locked)).filterMap (m.table.announce <| .entryDeleted ·) } := by
  have entries : m.table.entries.filter (fun e => e.key ∈ m.table.keys → e.key ∈ m.table.locked) =
      m.table.entries.filter (·.key ∈ m.table.locked) := by
    refine List.filter_congr fun e stored => decide_eq_decide.mpr ?_
    exact ⟨fun spared => spared (List.mem_map_of_mem stored), fun locked _ => locked⟩
  unfold without
  rw [entries]

theorem without_of_locked {keys : List Key} (h : ∀ k ∈ keys, k ∈ m.table.locked) : m.without keys = m := by
  have entries : m.table.entries.filter (fun e => e.key ∈ keys → e.key ∈ m.table.locked) = m.table.entries :=
    List.filter_eq_self.mpr fun e _ => decide_eq_true (h e.key)
  have told : keys.filter (· ∉ m.table.locked) = [] := by simpa [List.filter_eq_nil_iff] using h
  unfold without
  rw [entries, told, List.filterMap_nil, List.append_nil]

/-- What clearing the table comes to while the others write it. -/
structure ClearsAll (lead : Shared → Nat) (m : Memory) (others : Stream' (List Write)) (report : Report)
    (t : Recorded Shared) : Prop where
  /-- One delete for each key that the table had when the cursor was made, in table order. -/
  calls : t.exchanges = ⟨.keys, .ok m.table.keys⟩ :: m.table.keys.map (deletion m.table.locked)
  total : report.total = m.table.keys.length
  failed : report.failed = (m.table.keys.filter (· ∈ m.table.locked)).map fun k => (k, (refusal k).message)
  sound : report.IsSound
  /-- The entry for a key that the table did not have, or for a locked one, is what the others alone make of
  it. -/
  kept : ∀ k, (k ∈ m.table.keys → k ∈ m.table.locked) → t.plane.memory.table.find? k =
    ((others.take (m.table.keys.length + 1)).flatten.foldl Write.perform m).table.find? k
  /-- Any other key is there only if one of the others has put it in since it was deleted. -/
  gone : ∀ before k later, m.table.keys = before ++ k :: later → k ∉ m.table.locked →
    k ∈ t.plane.memory.table.keys →
      ∃ i, before.length < i ∧ i ≤ m.table.keys.length ∧ ∃ w ∈ others.get i, w.Installs k
  /-- If the others write nothing, the locked entries are left, and each key that is removed is told. -/
  alone : (∀ i, others.get i = []) → t.plane.memory = { m with
    table := { m.table with entries := m.table.entries.filter (·.key ∈ m.table.locked) }
    outbox := m.outbox ++
      (m.table.keys.filter (· ∉ m.table.locked)).filterMap (m.table.announce <| .entryDeleted ·) }
  /-- To clear the table again then fails for every key that is left, and changes nothing. -/
  again : (∀ i, others.get i = []) → ∀ bridge, ∃ u,
    Shared.clear lead bridge t.plane = (.ok ⟨report.failed.length, report.failed⟩, u) ∧
      u.plane.memory = t.plane.memory

theorem Cleared.clear_again (h : Cleared m others m.table.keys t) (connected : m.table.connected = true)
    (distinct : m.table.keys.Nodup) (nonempty : Key.empty ∉ m.table.keys) (idle : ∀ i, others.get i = [])
    (lead : Shared → Nat) (bridge : Bridge) : ∃ u, Shared.clear lead bridge t.plane =
      (.ok ⟨(m.table.keys.filter (· ∈ m.table.locked)).length,
        (m.table.keys.filter (· ∈ m.table.locked)).map fun k => (k, (refusal k).message)⟩, u) ∧
      u.plane.memory = t.plane.memory := by
  have left := h.alone idle
  rw [without_keys] at left
  have keys : t.plane.memory.table.keys = m.table.keys.filter (· ∈ m.table.locked) := by
    rw [left]
    simp [Table.keys, List.filter_map, Function.comp_def]
  have locked : ∀ k ∈ t.plane.memory.table.keys, k ∈ t.plane.memory.table.locked := by
    intro k stored
    rw [keys] at stored
    rw [h.settings.locked]
    exact of_decide_eq_true (List.mem_filter.mp stored).2
  have idle' : ∀ i, t.plane.others.get i = [] := by
    intro i
    rw [h.rest, Stream'.get_drop, idle]
  obtain ⟨u, run, cleared⟩ := clear_cleared (h.connected connected) (keys ▸ distinct.filter _)
    (fun empty => nonempty (List.mem_of_mem_filter (keys ▸ empty))) t.plane.others lead bridge
  refine ⟨u, run.trans ?_, (cleared.alone idle').trans (without_of_locked locked)⟩
  rw [List.filter_eq_self.mpr fun k stored => decide_eq_true (locked k stored), keys]

/-- Clearing the table comes to an end whatever the others write, and deletes the keys that it has read. -/
theorem clears_snapshot (operations : List Operation) (others : Stream' (List Write)) (lead : Shared → Nat)
    (bridge : Bridge) (connected : (after operations).table.connected = true)
    (nonempty : Key.empty ∉ (after operations).table.keys) : ∃ report t,
      Shared.clear lead bridge ⟨after operations, others⟩ = (.ok report, t) ∧
        ClearsAll lead (after operations) others report t := by
  have distinct := after_distinct operations
  generalize after operations = m at connected nonempty distinct ⊢
  obtain ⟨t, run, cleared⟩ := clear_cleared connected distinct nonempty others lead bridge
  refine ⟨_, t, run,
    { calls := cleared.calls, total := rfl, failed := rfl, sound := Report.isSound_of_filter ..,
      kept := cleared.kept, gone := cleared.gone,
      alone := fun idle => (cleared.alone idle).trans m.without_keys, again := fun idle bridge => ?_ }⟩
  obtain ⟨u, again, same⟩ := cleared.clear_again connected distinct nonempty idle lead bridge
  refine ⟨u, again.trans ?_, same⟩
  rw [List.length_map]

/-- Three keys, the second of which is locked. -/
def guarded : List Operation :=
  [.learn [⟨⟨1, .zero⟩, default⟩, ⟨⟨2, .zero⟩, default⟩, ⟨⟨3, .zero⟩, default⟩], .lock ⟨2, .zero⟩,
    .ask (.watch true)]

/-- The first key is learned again when it has been deleted. -/
def relearned : Stream' (List Write) := fun i => if i = 1 then [.learn ⟨⟨1, .zero⟩, default⟩] else []

theorem clears_snapshot_of_guarded :
    (after guarded).table.connected = true ∧ Key.empty ∉ (after guarded).table.keys ∧
    ∃ report t, Shared.clear (fun _ => 1) .threaded ⟨after guarded, relearned⟩ = (.ok report, t) ∧
      ClearsAll (fun _ => 1) (after guarded) relearned report t := by
  have nonempty : Key.empty ∉ (after guarded).table.keys := by decide
  exact ⟨rfl, nonempty, clears_snapshot guarded relearned _ .threaded rfl nonempty⟩

end Memory

end MacAgent
