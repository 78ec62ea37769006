import MacAgent.Console.Command
import MacAgent.Proofs.Value.InterfaceSet
import MacAgent.Proofs.Value.Written

/-! # Well-formed commands

A command that is read from a line keeps what its parts were checked for: keys of options are words and their
values have no blanks around them, VLANs are usable, and an entry that is installed has an interface. -/

namespace MacAgent

theorem Interface.ne_nil_of_mapM_ofName {names : List String} {l : List Interface} (full : names ≠ [])
    (h : names.mapM Interface.ofName = .ok l) : l ≠ [] := by
  cases names with
  | nil => exact absurd rfl full
  | cons name rest =>
    rw [List.mapM_cons] at h
    obtain ⟨i, -, rest⟩ := bind_eq_ok.mp h
    obtain ⟨l', -, made⟩ := bind_eq_ok.mp rest
    cases made
    exact List.cons_ne_nil i l'

namespace Command

variable {c : Command}

/-- The commands that can be written. -/
def IsWellFormed : Command → Prop
  | option key value => key ≠ "" ∧ Text.NoBlank key.toList ∧ Text.trim value.toList = value.toList
  | install e => Vlan.Usable e.key.vlan ∧ e.interfaces.toList ≠ []
  | delete k => Vlan.Usable k.vlan
  | init | enable | disable | exit => True

theorem value_eq_ok {α : Type} {result : Except FormatError α} {a : α} : value result = .ok a ↔ result = .ok a := by
  cases result with
  | error fault => exact ⟨nofun, nofun⟩
  | ok b => exact ⟨fun h => congrArg _ (Except.ok.inj h), fun h => congrArg _ (Except.ok.inj h)⟩

theorem wellFormed_of_alone {name : String} {c' : Command} {args : List String} (wellFormed : c.IsWellFormed)
    (h : alone name c args = .ok c') : c'.IsWellFormed := by
  unfold alone at h
  split at h
  · exact Except.ok.inj h ▸ wellFormed
  · cases h

theorem wellFormed_of_parseOption {rest : List Char} (h : parseOption rest = .ok c) : c.IsWellFormed := by
  unfold parseOption at h
  dsimp only at h
  split at h
  · cases h
  · rename_i full
    cases h
    refine ⟨fun none => full ?_, ?_, ?_⟩
    · rw [List.isEmpty_iff, ← String.toList_ofList (l := (Text.cut rest).1), none]
      rfl
    · rw [String.toList_ofList]
      exact Text.cut_noBlank rest
    · rw [String.toList_ofList]
      exact Text.trim_trim _

theorem wellFormed_of_parseInstall {args : List String} (h : parseInstall args = .ok c) : c.IsWellFormed := by
  unfold parseInstall at h
  split at h
  · cases h
  · cases h
  · cases h
  · rename_i vlan address interfaces
    obtain ⟨l, named, rest⟩ := bind_eq_ok.mp (value_eq_ok.mp h)
    obtain ⟨k, parsed, made⟩ := bind_eq_ok.mp rest
    cases made
    have parts : (Text.splitAtEach (· == ',') interfaces.toList).map String.ofList ≠ [] :=
      mt List.map_eq_nil_iff.mp (Text.splitAtEach_ne_nil _ _)
    obtain ⟨i, listed⟩ := List.exists_mem_of_ne_nil l (Interface.ne_nil_of_mapM_ofName parts named)
    have member : i ∈ (InterfaceSet.ofList l).toList := InterfaceSet.mem_ofList.mpr listed
    exact ⟨Key.parse_usable parsed, List.ne_nil_of_mem member⟩
  · cases h

theorem wellFormed_of_parseDelete {args : List String} (h : parseDelete args = .ok c) : c.IsWellFormed := by
  unfold parseDelete at h
  split at h
  · cases h
  · cases h
  · rename_i vlan address
    obtain ⟨k, parsed, made⟩ := bind_eq_ok.mp (value_eq_ok.mp h)
    cases made
    exact Key.parse_usable parsed
  · cases h

theorem wellFormed_of_parse {line : String} (h : parse line = .ok c) : c.IsWellFormed := by
  unfold parse at h
  dsimp only at h
  split at h
  · cases h
  · exact wellFormed_of_alone (c := init) trivial h
  · exact wellFormed_of_alone (c := enable) trivial h
  · exact wellFormed_of_alone (c := disable) trivial h
  · exact wellFormed_of_alone (c := exit) trivial h
  · exact wellFormed_of_alone (c := exit) trivial h
  · exact wellFormed_of_parseOption h
  · exact wellFormed_of_parseInstall h
  · exact wellFormed_of_parseDelete h
  · cases h

end Command

end MacAgent
