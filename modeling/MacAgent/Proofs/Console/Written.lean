import MacAgent.Console.Basic
import MacAgent.Proofs.Console.WellFormed
import MacAgent.Proofs.Memory.Sentinel
import MacAgent.Proofs.Value.Canonical

/-! # Commands and the lines that hold them

A command is written as its words with single blanks between them, and it is read from every line that holds
these words in this order, with any blanks between them and around them. Only the value of an option may hold
blanks itself. Every line that is read at all is read as a command that can be written in this way. -/

namespace MacAgent

open Text (NoBlank Follows Spaced)

namespace Command

/-- The words that a command is written with. An empty value is left out. -/
def words : Command → List String
  | init => ["init"]
  | enable => ["enable"]
  | disable => ["disable"]
  | option key value => "option" :: key :: if value = "" then [] else [value]
  | install e => ["mac-set", toString e.key.vlan.toNat, e.key.address.render, Interface.joined e.interfaces.toList]
  | delete k => ["mac-del", toString k.vlan.toNat, k.address.render]
  | exit => ["exit"]

def render (c : Command) : String := " ".intercalate c.words

/-- The line holds the words of the command, with any blanks between them and around them. -/
def IsIn (c : Command) (line : String) : Prop := Spaced (c.words.map String.toList) line.toList

/-! ### From commands to lines and back -/

section Read

variable {c : Command} {line : String} {w : List Char} {ws : List (List Char)}

/-- The first word of a line, and the rest as it is read. -/
theorem cut_line (plain : NoBlank w) (full : w ≠ []) (h : Spaced (w :: ws) line.toList) :
    ∃ left rest, Text.cut (Text.trim line.toList) = (w, left) ∧ Text.trim left = Text.trim rest ∧ Follows ws rest := by
  generalize line.toList = text at h
  cases h with
  | intro blank w later =>
    obtain ⟨left, cut, trimmed⟩ := Text.cut_trim plain full later.breaks
    exact ⟨left, _, by rw [Text.trim_gap_left blank, cut], trimmed, later⟩

theorem cut_args (plain : NoBlank w) (full : w ≠ []) (each : ∀ w ∈ ws, NoBlank w ∧ w ≠ [])
    (h : Spaced (w :: ws) line.toList) :
    ∃ left, Text.cut (Text.trim line.toList) = (w, left) ∧ Text.words (Text.trim left) = ws := by
  obtain ⟨left, rest, cut, trimmed, later⟩ := cut_line plain full h
  exact ⟨left, cut, by rw [trimmed, Text.words_trim, later.words_eq each]⟩

theorem key_words (k : Key) : ∀ w ∈ [(toString k.vlan.toNat).toList, k.address.render.toList], NoBlank w ∧ w ≠ [] := by
  rw [List.forall_mem_cons, List.forall_mem_singleton]
  refine ⟨⟨Vlan.toString_noBlank k.vlan.toNat, ?_⟩, ⟨k.address.render_noBlank, fun none => ?_⟩⟩
  · rw [show (toString k.vlan.toNat).toList = Nat.toDigits 10 k.vlan.toNat from Nat.toList_repr]
    exact Nat.toDigits_ne_nil
  · have found := k.address.find?_separator
    rw [none] at found
    cases found

theorem joined_noBlank (l : List Interface) : NoBlank (Interface.joined l).toList := by
  intro c inside
  rw [Interface.toList_joined] at inside
  rcases Text.mem_intercalate inside with between | ⟨part, listed, inside⟩
  · rw [List.mem_singleton.mp between]
    rfl
  · obtain ⟨i, -, rfl⟩ := List.mem_map.mp listed
    exact i.name_noBlank c inside

theorem joined_ne_nil {l : List Interface} (some : l ≠ []) : (Interface.joined l).toList ≠ [] := by
  intro none
  have parts := Interface.parts_joined l
  rw [none] at parts
  exact some (List.map_eq_nil_iff.mp parts.symm)

theorem mapM_ofName (l : List Interface) : (l.map (·.name)).mapM Interface.ofName = .ok l := by
  have each : Interface.ofName ∘ (·.name) = (pure : Interface → Except FormatError Interface) :=
    funext fun i => dif_pos i.isName
  rw [List.mapM_map, each]
  exact (List.mapM_pure (f := id)).trans (congrArg _ (List.map_id l))

theorem parseInstall_words {e : Entry} (usable : Vlan.Usable e.key.vlan) (some : e.interfaces.toList ≠ []) :
    parseInstall [toString e.key.vlan.toNat, e.key.address.render, Interface.joined e.interfaces.toList] =
      .ok (.install e) := by
  have names : (Text.splitAtEach (· == ',') (Interface.joined e.interfaces.toList).toList).map String.ofList =
      e.interfaces.toList.map (·.name) := by
    rw [Interface.split_joined some, List.map_map]
    exact List.map_congr_left fun i _ => String.ofList_toList
  unfold parseInstall
  dsimp only
  rw [names, mapM_ofName, Key.parse_render usable]
  exact congrArg (fun s => Except.ok (install ⟨e.key, s⟩)) (InterfaceSet.ofList_toList e.interfaces)

def alones : List (String × Command) := [("init", init), ("enable", enable), ("disable", disable), ("exit", exit)]

theorem parse_alone {name : String} (listed : (name, c) ∈ alones) (h : Spaced [name.toList] line.toList) :
    parse line = .ok c := by
  have plain : ∀ a ∈ alones, NoBlank a.1.toList ∧ a.1.toList ≠ [] := by decide
  obtain ⟨left, cut, args⟩ := cut_args (plain _ listed).1 (plain _ listed).2 (fun w none => by cases none) h
  unfold parse
  rw [cut]
  dsimp only
  rw [args]
  simp only [alones, List.mem_cons, Prod.mk.injEq, List.not_mem_nil, or_false] at listed
  rcases listed with ⟨rfl, rfl⟩ | ⟨rfl, rfl⟩ | ⟨rfl, rfl⟩ | ⟨rfl, rfl⟩ <;> rfl

/-- The value of an option is all that comes after its key, without the blanks around it. -/
theorem trim_value {value : String} (trimmed : Text.trim value.toList = value.toList) {rest : List Char}
    (h : Follows ((if value = "" then [] else [value]).map String.toList) rest) : Text.trim rest = value.toList := by
  split at h
  · rename_i none
    subst none
    cases h with
    | done blank => exact Text.trim_gap_right blank []
  · cases h with
    | word blank apart w later =>
      cases later with
      | done behind => rw [Text.trim_gap_left blank, Text.trim_gap_right behind, trimmed]

theorem parse_option {key value : String} (full : key ≠ "") (plain : NoBlank key.toList)
    (trimmed : Text.trim value.toList = value.toList) (h : (option key value).IsIn line) :
    parse line = .ok (option key value) := by
  have some_key : key.toList ≠ [] := fun none => full (String.toList_inj.mp none)
  obtain ⟨left, rest, cut, left_rest, later⟩ := cut_line (w := "option".toList) (by decide) (by decide) h
  cases later with
  | word blank apart w later =>
    obtain ⟨tail, cut_key, tail_rest⟩ := Text.cut_trim plain some_key later.breaks
    have read : Text.trim tail = value.toList := tail_rest.trans (trim_value trimmed later)
    unfold parse
    rw [cut]
    dsimp only
    rw [left_rest, Text.trim_gap_left blank]
    show parseOption _ = _
    unfold parseOption
    rw [cut_key]
    dsimp only
    rw [if_neg (by simpa using some_key), read, String.ofList_toList, String.ofList_toList]

/-- Every line that holds the words of a well-formed command is read as the command. -/
theorem parse_of_isIn (wellFormed : c.IsWellFormed) (h : c.IsIn line) : parse line = .ok c := by
  cases c with
  | init => exact parse_alone (by decide) h
  | enable => exact parse_alone (by decide) h
  | disable => exact parse_alone (by decide) h
  | exit => exact parse_alone (by decide) h
  | option key value => exact parse_option wellFormed.1 wellFormed.2.1 wellFormed.2.2 h
  | install e =>
    have each : ∀ w ∈ [(toString e.key.vlan.toNat).toList, e.key.address.render.toList,
        (Interface.joined e.interfaces.toList).toList], NoBlank w ∧ w ≠ [] := by
      obtain ⟨vlan, address⟩ := List.forall_mem_cons.mp (key_words e.key)
      rw [List.forall_mem_cons, List.forall_mem_cons, List.forall_mem_singleton]
      exact ⟨vlan, address _ List.mem_cons_self, joined_noBlank _, joined_ne_nil wellFormed.2⟩
    obtain ⟨left, cut, args⟩ := cut_args (w := "mac-set".toList) (by decide) (by decide) each h
    unfold parse
    rw [cut]
    dsimp only
    rw [args]
    simp only [List.map_cons, List.map_nil, String.ofList_toList]
    show parseInstall _ = _
    exact parseInstall_words wellFormed.1 wellFormed.2
  | delete k =>
    obtain ⟨left, cut, args⟩ := cut_args (w := "mac-del".toList) (by decide) (by decide) (key_words k) h
    unfold parse
    rw [cut]
    dsimp only
    rw [args]
    simp only [List.map_cons, List.map_nil, String.ofList_toList]
    show parseDelete _ = _
    unfold parseDelete
    dsimp only
    rw [Key.parse_render wellFormed]
    rfl

theorem render_isIn (c : Command) : c.IsIn c.render := by
  unfold IsIn render
  rw [String.toList_intercalate]
  cases c with
  | init | enable | disable | option | install | delete | exit => exact Text.spaced_intercalate _ _

end Read

/-- Commands and the lines that hold them belong together. -/
structure CorrespondsToLines : Prop where
  /-- A command that can be written is read from every line that holds its words. -/
  read : ∀ (c : Command) (line : String), c.IsWellFormed → c.IsIn line → parse line = .ok c
  written : ∀ c : Command, c.IsWellFormed → c.IsIn c.render ∧ parse c.render = .ok c
  /-- Every line that is read is read as a command that can be written, and what this is written as is read
  as the line was. -/
  wellFormed : ∀ (line : String) (c : Command), parse line = .ok c → c.IsWellFormed ∧ parse c.render = parse line
  /-- An entry that was read is installed in any table that is connected, and never under the empty key. -/
  installed : ∀ (line : String) (e : Entry), parse line = .ok (.install e) →
    ∀ (listening : Bool) (m : Memory), m.table.connected = true →
      ∃ m', Console.apply listening (.install e) m = (.ok .proceed, m') ∧ m'.table.find? e.key = some e ∧
        (Key.empty ∈ m'.table.keys ↔ Key.empty ∈ m.table.keys)

theorem corresponds_to_lines : CorrespondsToLines where
  read c line wellFormed h := parse_of_isIn wellFormed h
  written c wellFormed := ⟨c.render_isIn, parse_of_isIn wellFormed c.render_isIn⟩
  wellFormed line c h := by
    have wellFormed := wellFormed_of_parse h
    exact ⟨wellFormed, by rw [h, parse_of_isIn wellFormed c.render_isIn]⟩
  installed line e h listening m connected := by
    have usable : Vlan.Usable e.key.vlan := (wellFormed_of_parse h).1
    have puts := m.table.upsert_puts e
    have served : m.answer (.install e) = m.updateTable (.ok (m.table.upsert e)) := by
      refine (Memory.answer_of_reaches (r := .install e) connected).trans ?_
      exact congrArg m.updateTable (if_pos usable)
    refine ⟨{ m with table := (m.table.upsert e).1 }.send (m.table.upsert e).2.toList, ?_, puts.found, ?_⟩
    · exact congrArg Console.proceedAfter served
    · exact puts.mem_keys.trans (or_iff_right usable.key_ne_empty)

end Command

end MacAgent
