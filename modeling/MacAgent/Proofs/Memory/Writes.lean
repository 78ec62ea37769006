import MacAgent.Proofs.Memory.Writers

/-! # What calls make of one entry

What calls that write the table make of the entry for a key depends only on that entry and on the keys that are
locked. They leave the settings of the table alone. -/

namespace MacAgent

namespace Table

/-- What a client that writes entries leaves alone. -/
structure SameSettings (t t' : Table) : Prop where
  connected : t'.connected = t.connected
  locked : t'.locked = t.locked
  watching : t'.watching = t.watching

namespace SameSettings

variable {t t' t'' : Table}

theorem rfl : t.SameSettings t := ⟨.refl _, .refl _, .refl _⟩

theorem trans (h : t.SameSettings t') (h' : t'.SameSettings t'') : t.SameSettings t'' :=
  ⟨h'.connected.trans h.connected, h'.locked.trans h.locked, h'.watching.trans h.watching⟩

theorem eq_of_entries (h : t.SameSettings t') (entries : t'.entries = t.entries) : t' = t := by
  obtain ⟨connected, locked, watching⟩ := h
  cases t
  cases t'
  congr

end SameSettings

end Table

namespace Write

variable {k : Key} {w : Write} {m : Memory}

/-- The call puts an entry for the key in, if the plane has its connection. -/
def Installs (k : Key) : Write → Prop
  | learn e => e.key = k
  | install e => e.key = k ∧ Vlan.Usable k.vlan
  | delete _ => False

/-- What becomes of the entry for a key, if these keys are locked. -/
def follow (locked : List Key) (k : Key) (old : Option Entry) : Write → Option Entry
  | learn e => if e.key = k then some e else old
  | install e => if e.key = k ∧ Vlan.Usable k.vlan then some e else old
  | delete k' => if k' = k ∧ k ∉ locked then none else old

theorem installs_of_follow {locked : List Key} (h : w.follow locked k none ≠ none) : w.Installs k := by
  cases w with
  | learn e =>
    by_contra other
    exact h (if_neg other)
  | install e =>
    by_contra other
    exact h (if_neg other)
  | delete k' =>
    exact absurd (ite_self none) h

theorem apply_settings {t t' : Table} {event? : Option Event} (h : w.apply t = .ok (t', event?)) :
    t.SameSettings t' := by
  have upserted (e : Entry) : t.SameSettings (t.upsert e).1 :=
    ⟨(t.upsert_puts e).connected, (t.upsert_puts e).locked, (t.upsert_puts e).watching⟩
  cases w with
  | learn e =>
    have same := upserted e
    rwa [Except.ok.inj h] at same
  | install e =>
    unfold apply Table.install at h
    dsimp only at h
    split at h
    · split at h
      · have same := upserted e
        rwa [Except.ok.inj h] at same
      · cases h
    · cases h
  | delete k =>
    unfold apply at h
    dsimp only at h
    split at h
    · have drops := (Table.delete_drops h).2
      exact ⟨drops.connected, drops.locked, drops.watching⟩
    · cases h

theorem perform_settings (w : Write) (m : Memory) : m.table.SameSettings (w.perform m).table := by
  rw [perform_eq]
  rcases applied : w.apply m.table with fault | ⟨t, event?⟩
  · exact .rfl
  · exact apply_settings applied

theorem find?_perform (connected : m.table.connected = true) (w : Write) (k : Key) :
    (w.perform m).table.find? k = w.follow m.table.locked k (m.table.find? k) := by
  cases w with
  | learn e => exact Table.find?_upsert m.table e k
  | install e =>
    unfold perform follow
    dsimp only
    by_cases usable : Vlan.Usable e.key.vlan
    · rw [Memory.install_answer connected usable]
      refine (Table.find?_upsert m.table e k).trans (ite_congr (propext ?_) (fun _ => rfl) fun _ => rfl)
      constructor
      · rintro rfl
        exact ⟨rfl, usable⟩
      · exact And.left
    · rw [(Memory.Refuses.invalidEntry e connected usable).answer, if_neg]
      rintro ⟨rfl, usable'⟩
      exact usable usable'
  | delete k' =>
    unfold perform follow
    dsimp only
    by_cases locked : k' ∈ m.table.locked
    · rw [(Memory.Refuses.rejected k' connected locked).answer, if_neg]
      rintro ⟨rfl, free⟩
      exact free locked
    · obtain ⟨m', run⟩ : ∃ m', m.answer (.delete k') = (.ok (), m') := ⟨_, Memory.delete_answer connected locked⟩
      have drops := (Memory.delete_ok run).2.2
      rw [run]
      by_cases same : k' = k
      · subst same
        rw [if_pos ⟨rfl, locked⟩]
        exact drops.gone
      · rw [if_neg fun h => same h.1]
        exact drops.others k (Ne.symm same)

theorem foldl_settings (ws : List Write) (m : Memory) : m.table.SameSettings (ws.foldl perform m).table :=
  List.foldlRecOn (motive := fun m' : Memory => m.table.SameSettings m'.table) ws perform .rfl
    fun m' same w _ => same.trans (perform_settings w m')

theorem find?_foldl (connected : m.table.connected = true) (ws : List Write) (k : Key) :
    (ws.foldl perform m).table.find? k = ws.foldl (follow m.table.locked k) (m.table.find? k) := by
  induction ws generalizing m with
  | nil => rfl
  | cons w ws ih =>
    have settings := perform_settings w m
    rw [List.foldl_cons, List.foldl_cons, ih (settings.connected.trans connected), find?_perform connected,
      settings.locked]

theorem installs_of_mem_keys (connected : m.table.connected = true) (ws : List Write)
    (h : k ∈ (ws.foldl perform m).table.keys) : k ∈ m.table.keys ∨ ∃ w ∈ ws, w.Installs k := by
  induction ws generalizing m with
  | nil => exact .inl h
  | cons w ws ih =>
    rcases ih ((perform_settings w m).connected.trans connected) h with there | ⟨w', member, installs⟩
    · by_cases before : k ∈ m.table.keys
      · exact .inl before
      · rw [Table.mem_keys_iff, find?_perform connected, Table.find?_eq_none.mpr before] at there
        exact .inr ⟨w, List.mem_cons_self, installs_of_follow there⟩
    · exact .inr ⟨w', List.mem_cons_of_mem w member, installs⟩

end Write

end MacAgent
