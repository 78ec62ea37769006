import Mathlib.Data.List.Sort
import MacAgent.Value.InterfaceSet

/-! # Sets of interfaces

A set of interfaces is known by its members: the ascending list of them is determined, whichever way and in
whichever order they were put in. -/

namespace MacAgent

namespace Interface

variable {i j : Interface}

theorem eq_of_name_eq (h : i.name = j.name) : i = j := by
  cases i
  cases h
  rfl

instance : Std.Asymm (α := Interface) (· < ·) where
  asymm i j (h : i.name < j.name) := Std.Asymm.asymm i.name j.name h

theorem eq_of_not_lt (above : ¬i < j) (below : ¬j < i) : i = j :=
  eq_of_name_eq (Std.Trichotomous.trichotomous (r := (· < · : String → String → Prop)) _ _ above below)

end Interface

namespace InterfaceSet

variable {s s' : InterfaceSet} {i j : Interface} {l l' : List Interface}

theorem mem_toList : i ∈ s.toList ↔ i ∈ s := Iff.rfl

theorem ext_mem (h : ∀ i, i ∈ s ↔ i ∈ s') : s = s' := by
  rcases s with ⟨l, ascending⟩
  rcases s' with ⟨l', ascending'⟩
  obtain rfl : l = l' := ascending.eq_of_mem_iff ascending' h
  rfl

theorem mem_insertAscending : i ∈ insertAscending j l ↔ i = j ∨ i ∈ l := by
  refine ⟨mem_of_mem_insertAscending, fun h => ?_⟩
  induction l with
  | nil => simpa [insertAscending] using h
  | cons k rest ih =>
    unfold insertAscending
    split
    · exact List.mem_cons.mpr h
    · rename_i notBelow
      split
      · rcases h with rfl | h
        · exact List.mem_cons_of_mem k (ih (.inl rfl))
        · rcases List.mem_cons.mp h with rfl | later
          · exact List.mem_cons_self
          · exact List.mem_cons_of_mem k (ih (.inr later))
      · rename_i notAbove
        rcases h with rfl | h
        · rw [Interface.eq_of_not_lt notBelow notAbove]
          exact List.mem_cons_self
        · exact h

theorem mem_insert : i ∈ s.insert j ↔ i = j ∨ i ∈ s := mem_insertAscending

theorem mem_erase : i ∈ s.erase j ↔ i ∈ s ∧ i ≠ j := by
  show i ∈ s.toList.filter (· ≠ j) ↔ i ∈ s.toList ∧ i ≠ j
  rw [List.mem_filter, decide_eq_true_iff]

theorem mem_singleton : i ∈ singleton j ↔ i = j := List.mem_singleton

theorem mem_ofList : i ∈ ofList l ↔ i ∈ l := by
  have folded (s : InterfaceSet) : i ∈ l.foldl (fun s i => s.insert i) s ↔ i ∈ l ∨ i ∈ s := by
    induction l generalizing s with
    | nil => simp
    | cons j rest ih => rw [List.foldl_cons, ih, mem_insert, List.mem_cons, or_left_comm, or_assoc]
  refine (folded ∅).trans (or_iff_left ?_)
  exact List.not_mem_nil

/-- Order and repetition do not count. -/
theorem ofList_congr (h : ∀ i, i ∈ l ↔ i ∈ l') : ofList l = ofList l' :=
  ext_mem fun i => by rw [mem_ofList, mem_ofList, h]

theorem ofList_toList (s : InterfaceSet) : ofList s.toList = s :=
  ext_mem fun _ => mem_ofList

end InterfaceSet

end MacAgent
