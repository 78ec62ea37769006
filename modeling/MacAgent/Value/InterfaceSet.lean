import MacAgent.Value.Interface

/-! # Sets of interfaces

The interfaces of an entry form a finite set, kept as the ascending list of its members, so that
equal sets are equal values. -/

namespace MacAgent

structure InterfaceSet where
  /-- The members, in ascending order. -/
  toList : List Interface
  ascending : toList.Pairwise (· < ·)
deriving DecidableEq

namespace InterfaceSet

/-- Puts `i` into an ascending list, unless it is there. -/
def insertAscending (i : Interface) : List Interface → List Interface
  | [] => [i]
  | j :: rest =>
    if i < j then i :: j :: rest
    else if j < i then j :: insertAscending i rest
    else j :: rest

theorem mem_of_mem_insertAscending {i x : Interface} {l : List Interface}
    (h : x ∈ insertAscending i l) : x = i ∨ x ∈ l := by
  induction l with
  | nil => simpa [insertAscending] using h
  | cons j rest ih =>
    unfold insertAscending at h
    split at h
    · simpa using h
    · split at h
      · rcases List.mem_cons.mp h with h | h
        · exact .inr (List.mem_cons.mpr (.inl h))
        · exact (ih h).imp id (List.mem_cons_of_mem j)
      · exact .inr h

theorem pairwise_insertAscending {i : Interface} {l : List Interface} (h : l.Pairwise (· < ·)) :
    (insertAscending i l).Pairwise (· < ·) := by
  induction l with
  | nil => simp [insertAscending]
  | cons j rest ih =>
    obtain ⟨hj, hrest⟩ := List.pairwise_cons.mp h
    unfold insertAscending
    split
    next hij =>
      refine List.pairwise_cons.mpr ⟨fun x hx => ?_, h⟩
      rcases List.mem_cons.mp hx with rfl | hx
      · exact hij
      · exact String.lt_trans (show i.name < j.name from hij) (hj x hx)
    next =>
      split
      next hji =>
        refine List.pairwise_cons.mpr ⟨fun x hx => ?_, ih hrest⟩
        rcases mem_of_mem_insertAscending hx with rfl | hx
        · exact hji
        · exact hj x hx
      next => exact h

def empty : InterfaceSet := ⟨[], .nil⟩

instance : EmptyCollection InterfaceSet := ⟨empty⟩

instance : Inhabited InterfaceSet := ⟨empty⟩

instance : Membership Interface InterfaceSet := ⟨fun s i => i ∈ s.toList⟩

instance (i : Interface) (s : InterfaceSet) : Decidable (i ∈ s) :=
  inferInstanceAs (Decidable (i ∈ s.toList))

def insert (i : Interface) (s : InterfaceSet) : InterfaceSet :=
  ⟨insertAscending i s.toList, pairwise_insertAscending s.ascending⟩

def erase (i : Interface) (s : InterfaceSet) : InterfaceSet :=
  ⟨s.toList.filter (· ≠ i), s.ascending.filter _⟩

/-- The set of the members of a list, in which order and repetition do not count. -/
def ofList (l : List Interface) : InterfaceSet :=
  l.foldl (fun s i => s.insert i) ∅

def singleton (i : Interface) : InterfaceSet := ⟨[i], List.pairwise_singleton _ _⟩

def isEmpty (s : InterfaceSet) : Bool := s.toList.isEmpty

def size (s : InterfaceSet) : Nat := s.toList.length

def first? (s : InterfaceSet) : Option Interface := s.toList.head?

end InterfaceSet

end MacAgent
