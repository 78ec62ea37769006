import MacAgent.Proofs.Memory.Changes

/-! # Notices tell all changes of a watched table

Who is told of the changes of a table can keep a copy of its entries, and bring the copy up to date with
each notice. While the table is watched, the copy is the table after every operation, and every notice
changes the copy: what changes nothing is not told. Of a table that nobody watches, nothing is told. -/

namespace MacAgent

/-- Puts an entry in the place of the first one with its key, or after all others. -/
def Entry.placeIn (e : Entry) : List Entry → List Entry
  | [] => [e]
  | x :: rest => if x.key = e.key then e :: rest else x :: e.placeIn rest

namespace Event

/-- A copy of a table's entries, brought up to date with an event. -/
def update (copy : List Entry) : Event → List Entry
  | .entrySet e => e.placeIn copy
  | .entryDeleted k => copy.eraseP (·.key = k)
  | .initialized | .enabled _ | .option .. => copy

/-- Each of the events changes the copy that those before it have left. -/
def EachTells (copy : List Entry) : List Event → Prop
  | [] => True
  | e :: rest => update copy e ≠ copy ∧ EachTells (update copy e) rest

theorem EachTells.append {copy : List Entry} {events events' : List Event} (h : EachTells copy events)
    (h' : EachTells (events.foldl update copy) events') : EachTells copy (events ++ events') := by
  induction events generalizing copy with
  | nil => exact h'
  | cons e rest ih => exact ⟨h.1, ih h.2 h'⟩

end Event

namespace Table

variable {t t' : Table} {e : Entry} {k : Key} {event? : Option Event}

/-! ### One change -/

theorem placeIn_of_absent {l : List Entry} (h : e.key ∉ l.map (·.key)) : e.placeIn l = l ++ [e] := by
  induction l with
  | nil => rfl
  | cons x rest ih =>
    rw [List.map_cons, List.mem_cons, not_or] at h
    rw [Entry.placeIn, if_neg (Ne.symm h.1), ih h.2, List.cons_append]

theorem replace_of_absent {l : List Entry} (h : e.key ∉ l.map (·.key)) : replace e l = l := by
  refine (List.map_congr_left fun x stored => if_neg ?_).trans (List.map_id l)
  exact fun same => h (same ▸ List.mem_map_of_mem stored)

theorem placeIn_of_present {l : List Entry} (distinct : (l.map (·.key)).Nodup) (h : e.key ∈ l.map (·.key)) :
    e.placeIn l = replace e l := by
  induction l with
  | nil => cases h
  | cons x rest ih =>
    rw [List.map_cons, List.nodup_cons] at distinct
    by_cases same : x.key = e.key
    · have absent : e.key ∉ rest.map (·.key) := same ▸ distinct.1
      rw [Entry.placeIn, if_pos same, replace, List.map_cons, if_pos same]
      exact congrArg (e :: ·) (replace_of_absent absent).symm
    · have later : e.key ∈ rest.map (·.key) := (List.mem_cons.mp h).resolve_left (Ne.symm same)
      rw [Entry.placeIn, if_neg same, ih distinct.2 later, replace, replace, List.map_cons, if_neg same]

/-- `t'` is `t` after at most one change of its entries, and this is what the table tells of it. -/
structure Tells (t t' : Table) (event? : Option Event) : Prop where
  watching : t'.watching = t.watching
  told : t'.entries = t.entries ∧ event? = none ∨
    ∃ e : Event, e.update t.entries = t'.entries ∧ t'.entries ≠ t.entries ∧ event? = t.announce e

theorem upsert_tells (distinct : t.keys.Nodup) (e : Entry) : t.Tells (t.upsert e).1 (t.upsert e).2 := by
  unfold upsert
  split
  · rename_i old found
    split
    · exact ⟨rfl, .inl ⟨rfl, rfl⟩⟩
    · rename_i other
      have present : e.key ∈ t.entries.map (·.key) := mem_keys_of_find? found
      refine ⟨rfl, .inr ⟨.entrySet e, placeIn_of_present distinct present, fun same => other ?_, rfl⟩⟩
      -- Had nothing changed, the entry would be stored already.
      have placed := find?_replace_self present
      rw [show replace e t.entries = t.entries from same] at placed
      exact Option.some.inj (found.symm.trans placed)
  · rename_i missing
    refine ⟨rfl, .inr ⟨.entrySet e, placeIn_of_absent (find?_eq_none.mp missing), fun same => ?_, rfl⟩⟩
    simp at same

theorem install_tells (distinct : t.keys.Nodup) (h : t.install e = .ok (t', event?)) : t.Tells t' event? := by
  unfold install at h
  split at h
  · have told := upsert_tells distinct e
    rw [Except.ok.inj h] at told
    exact told
  · cases h

theorem eraseP_eq_filter {l : List Entry} (distinct : (l.map (·.key)).Nodup) :
    l.eraseP (·.key = k) = l.filter (·.key ≠ k) := by
  induction l with
  | nil => rfl
  | cons x rest ih =>
    rw [List.map_cons, List.nodup_cons] at distinct
    by_cases same : x.key = k
    · subst same
      have others : ∀ y ∈ rest, y.key ≠ x.key := fun y stored heq => distinct.1 (heq ▸ List.mem_map_of_mem stored)
      rw [List.eraseP_cons_of_pos (by simp), List.filter_cons_of_neg (by simp)]
      exact (List.filter_eq_self.mpr (by simpa using others)).symm
    · rw [List.eraseP_cons_of_neg (by simpa using same), List.filter_cons_of_pos (by simpa using same),
        ih distinct.2]

theorem delete_tells (distinct : t.keys.Nodup) (h : t.delete k = .ok (t', event?)) : t.Tells t' event? := by
  unfold delete at h
  split at h
  · cases h
  · split at h
    · rename_i found
      cases h
      refine ⟨rfl, .inr ⟨.entryDeleted k, eraseP_eq_filter distinct, fun same => ?_, rfl⟩⟩
      obtain ⟨x, found⟩ := Option.isSome_iff_exists.mp found
      have kept := List.filter_eq_self.mp same x (List.mem_of_find?_eq_some found)
      simp [find?_key found] at kept
    · cases h
      exact ⟨rfl, .inl ⟨rfl, rfl⟩⟩

end Table

namespace Memory

variable {m m' m'' : Memory} {events events' : List Event} {r : Request} {op : Operation}
  {operations : List Operation}

/-! ### One change of a plane -/

/-- `m'` is `m` after at most one change of its table, with what the table tells of it sent. -/
def Alters (m m' : Memory) : Prop :=
  ∃ event? : Option Event, m.table.Tells m'.table event? ∧ m'.outbox = m.outbox ++ event?.toList

theorem alters_nothing (entries : m'.table.entries = m.table.entries)
    (watching : m'.table.watching = m.table.watching) (outbox : m'.outbox = m.outbox) : m.Alters m' :=
  ⟨none, ⟨watching, .inl ⟨entries, rfl⟩⟩, by rw [outbox, Option.toList_none, List.append_nil]⟩

theorem alters_of_updateTable {result : Except Fault (Table × Option Event)}
    (h : ∀ t event?, result = .ok (t, event?) → m.table.Tells t event?) : m.Alters (m.updateTable result).2 := by
  rcases result with fault | ⟨t, event?⟩
  · exact alters_nothing rfl rfl rfl
  · exact ⟨event?, h t event? rfl, rfl⟩

/-- A request that does not switch the notices makes at most one change. -/
theorem answer_alters (distinct : m.table.keys.Nodup) (other : ∀ on, r = .watch on → m.table.watching = on) :
    m.Alters (m.answer r).2 := by
  by_cases reached : m.reaches r
  · rw [answer_of_reaches reached]
    cases r with
    | install e => exact alters_of_updateTable fun _ _ => Table.install_tells distinct
    | delete k => exact alters_of_updateTable fun _ _ => Table.delete_tells distinct
    | watch on => exact alters_nothing rfl (other on rfl).symm rfl
    | option | optionValues | status | publish | acknowledge | keys | lookup => exact alters_nothing rfl rfl rfl
  · rw [answer_of_not_reaches reached]
    exact alters_nothing rfl rfl rfl

theorem answer_watch_outbox (m : Memory) (on : Bool) : (m.answer (.watch on)).2.outbox = m.outbox := by
  by_cases reached : m.reaches (.watch on)
  · rw [answer_of_reaches reached]
    rfl
  · rw [answer_of_not_reaches reached]

theorem learn_alters (distinct : m.table.keys.Nodup) (e : Entry) : m.Alters (m.learn [e]) := by
  refine ⟨(m.table.upsert e).2, Table.upsert_tells distinct e, ?_⟩
  simp [learn, Table.learn, send]

theorem Alters.watching (h : m.Alters m') : m'.table.watching = m.table.watching := by
  obtain ⟨event?, told, -⟩ := h
  exact told.watching

/-- What changes nothing is not told. -/
theorem Alters.idle (h : m.Alters m') (same : m'.table.entries = m.table.entries) : m'.outbox = m.outbox := by
  obtain ⟨event?, ⟨-, ⟨-, rfl⟩ | ⟨e, -, changed, -⟩⟩, outbox⟩ := h
  · rwa [Option.toList_none, List.append_nil] at outbox
  · exact absurd same changed

theorem Alters.silent (h : m.Alters m') (unwatched : m.table.watching = false) : m'.outbox = m.outbox := by
  obtain ⟨event?, ⟨-, ⟨-, rfl⟩ | ⟨e, -, -, rfl⟩⟩, outbox⟩ := h
  · rwa [Option.toList_none, List.append_nil] at outbox
  · have untold : m.table.announce e = none := if_neg (Bool.eq_false_iff.mp unwatched)
    rwa [untold, Option.toList_none, List.append_nil] at outbox

/-! ### Many changes -/

/-- The plane told of `events` on its way from `m` to `m'`: of all that changed the table, and of nothing
else. -/
structure Tells (m : Memory) (events : List Event) (m' : Memory) : Prop where
  outbox : m'.outbox = m.outbox ++ events
  update : events.foldl Event.update m.table.entries = m'.table.entries
  each : Event.EachTells m.table.entries events
  watching : m'.table.watching = m.table.watching

theorem Tells.trans (h : m.Tells events m') (h' : m'.Tells events' m'') : m.Tells (events ++ events') m'' where
  outbox := by rw [h'.outbox, h.outbox, List.append_assoc]
  update := by rw [List.foldl_append, h.update, h'.update]
  each := h.each.append (h.update ▸ h'.each)
  watching := h'.watching.trans h.watching

theorem tells_nothing (entries : m'.table.entries = m.table.entries)
    (watching : m'.table.watching = m.table.watching) (outbox : m'.outbox = m.outbox) : m.Tells [] m' :=
  ⟨by rw [outbox, List.append_nil], entries.symm, trivial, watching⟩

theorem Alters.tells (h : m.Alters m') (watched : m.table.watching = true) : ∃ events, m.Tells events m' := by
  obtain ⟨event?, ⟨watching, ⟨entries, rfl⟩ | ⟨e, update, changed, rfl⟩⟩, outbox⟩ := h
  · rw [Option.toList_none, List.append_nil] at outbox
    exact ⟨[], tells_nothing entries watching outbox⟩
  · rw [show m.table.announce e = some e from if_pos watched] at outbox
    exact ⟨[e], outbox, update, ⟨update ▸ changed, trivial⟩, watching⟩

/-- Nobody takes the events that the plane has sent. -/
def Operation.LeavesOutbox : Operation → Prop
  | learn _ | ask _ | lock _ | disconnect => True
  | elsewhere .. => False

theorem learn_cons (m : Memory) (e : Entry) (rest : List Entry) :
    m.learn (e :: rest) = (m.learn [e]).learn rest := learn_append m [e] rest

theorem learn_tells (watched : m.table.watching = true) (distinct : m.table.keys.Nodup) (entries : List Entry) :
    ∃ events, m.Tells events (m.learn entries) := by
  induction entries generalizing m with
  | nil => exact ⟨[], tells_nothing rfl rfl (List.append_nil _)⟩
  | cons e rest ih =>
    obtain ⟨events, first⟩ := (learn_alters distinct e).tells watched
    obtain ⟨events', later⟩ := ih (first.watching.trans watched) (perform_distinct distinct (.learn [e]))
    rw [learn_cons]
    exact ⟨_, first.trans later⟩

theorem perform_tells (watched : m.table.watching = true) (distinct : m.table.keys.Nodup)
    (leaves : op.LeavesOutbox) (stays : op ≠ .ask (.watch false)) : ∃ events, m.Tells events (m.perform op) := by
  cases op with
  | learn entries => exact learn_tells watched distinct entries
  | ask r =>
    refine (answer_alters distinct fun on switch => ?_).tells watched
    cases on with
    | true => exact watched
    | false => exact absurd (congrArg Operation.ask switch) stays
  | lock | disconnect => exact ⟨[], tells_nothing rfl rfl rfl⟩
  | elsewhere => exact leaves.elim

theorem run_tells (watched : m.table.watching = true) (distinct : m.table.keys.Nodup)
    (leaves : ∀ op ∈ operations, op.LeavesOutbox) (stays : .ask (.watch false) ∉ operations) :
    ∃ events, m.Tells events (operations.foldl perform m) := by
  induction operations generalizing m with
  | nil => exact ⟨[], tells_nothing rfl rfl rfl⟩
  | cons op rest ih =>
    rw [List.forall_mem_cons] at leaves
    rw [List.mem_cons, not_or] at stays
    obtain ⟨events, first⟩ := perform_tells watched distinct leaves.1 (Ne.symm stays.1)
    obtain ⟨events', later⟩ := ih (first.watching.trans watched) (perform_distinct distinct op) leaves.2 stays.2
    exact ⟨_, first.trans later⟩

theorem learn_silent (unwatched : m.table.watching = false) (distinct : m.table.keys.Nodup) (entries : List Entry) :
    (m.learn entries).outbox = m.outbox := by
  induction entries generalizing m with
  | nil => exact List.append_nil _
  | cons e rest ih =>
    have first := learn_alters distinct e
    rw [learn_cons, ih (first.watching.trans unwatched) (perform_distinct distinct (.learn [e]))]
    exact first.silent unwatched

theorem perform_silent (unwatched : m.table.watching = false) (distinct : m.table.keys.Nodup)
    (leaves : op.LeavesOutbox) : (m.perform op).outbox = m.outbox := by
  cases op with
  | learn entries => exact learn_silent unwatched distinct entries
  | ask r =>
    by_cases switch : ∃ on, r = .watch on
    · obtain ⟨on, rfl⟩ := switch
      exact answer_watch_outbox m on
    · exact (answer_alters distinct fun on h => absurd ⟨on, h⟩ switch).silent unwatched
  | lock | disconnect => rfl
  | elsewhere => exact leaves.elim

/-- What can be relied on of the notices that a plane sends. -/
structure TellsAll (m : Memory) : Prop where
  /-- The notices of a watched table bring a copy of its entries up to date, and each of them changes it. -/
  followed : m.table.watching = true → ∀ operations : List Operation,
    (∀ op ∈ operations, op.LeavesOutbox) → .ask (.watch false) ∉ operations →
      ∃ events, m.Tells events (operations.foldl perform m)
  /-- A request that changes no entry is not told, whether it succeeds or fails. -/
  idle : ∀ r, (m.answer r).2.table.entries = m.table.entries → (m.answer r).2.outbox = m.outbox
  failed : ∀ r fault m', m.answer r = (.error fault, m') → m'.outbox = m.outbox
  /-- Learning an entry that is there already is not told. -/
  known : ∀ e, (m.learn [e]).table.entries = m.table.entries → (m.learn [e]).outbox = m.outbox
  silent : m.table.watching = false → ∀ op : Operation, op.LeavesOutbox → (m.perform op).outbox = m.outbox

/-- Whatever was done to a plane, all that changes its table from then on is told, and nothing else is. -/
theorem notices_tell_all (operations : List Operation) : TellsAll (after operations) := by
  have distinct := after_distinct operations
  generalize after operations = m at distinct
  refine
    { followed := fun watched operations => run_tells watched distinct, idle := fun r same => ?_,
      failed := fun r fault m' failed => ?_, known := fun e => (learn_alters distinct e).idle,
      silent := fun unwatched op => perform_silent unwatched distinct }
  · by_cases switch : ∃ on, r = .watch on
    · obtain ⟨on, rfl⟩ := switch
      exact answer_watch_outbox m on
    · exact (answer_alters distinct fun on h => absurd ⟨on, h⟩ switch).idle same
  · rw [(answer_error failed).2]

/-- A follower of a table that learns two entries, is refused a third, changes the first, and deletes the
second twice. -/
example :
    let entry (vlan : UInt16) (interfaces : InterfaceSet) : Entry := ⟨⟨vlan, .zero⟩, interfaces⟩
    let changed := entry 1 (.singleton ⟨"Ethernet1", by decide⟩)
    ([.ask (.watch true), .learn [entry 1 .empty, entry 2 .empty], .ask (.install (entry 0 .empty)),
        .ask (.install changed), .ask (.delete ⟨2, .zero⟩), .ask (.delete ⟨2, .zero⟩)].foldl perform
        ({} : Memory)).outbox =
      [.entrySet (entry 1 .empty), .entrySet (entry 2 .empty), .entrySet changed,
        .entryDeleted ⟨2, .zero⟩] := by
  decide

end Memory

end MacAgent
