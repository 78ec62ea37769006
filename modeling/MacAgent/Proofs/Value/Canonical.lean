import Mathlib.Data.Set.Insert
import MacAgent.Agent.Publish
import MacAgent.Proofs.Text.Bytes
import MacAgent.Proofs.Value.InterfaceSet
import MacAgent.Proofs.Value.Written
import MacAgent.Value.Entry

/-! # Printed values tell themselves apart

Values of a kind are equal if they are printed alike. A key is printed with marks between its parts that
stand in no number and in no address, so each part ends where its mark is first met. An entry is printed with
its interfaces between commas and up to the very end, so that their names may hold anything else, even what
looks like the end of the entry. -/

namespace MacAgent

/-- A mark that is in neither word ends both of them where it stands. -/
theorem Text.append_cons_inj {mark : Char} {w w' rest rest' : List Char} (free : mark ∉ w) (free' : mark ∉ w')
    (h : w ++ mark :: rest = w' ++ mark :: rest') : w = w' ∧ rest = rest' := by
  induction w generalizing w' with
  | nil =>
    cases w' with
    | nil => exact ⟨rfl, (List.cons.inj h).2⟩
    | cons c w' =>
      obtain rfl : mark = c := (List.cons.inj h).1
      exact absurd List.mem_cons_self free'
  | cons c w ih =>
    cases w' with
    | nil =>
      obtain rfl : c = mark := (List.cons.inj h).1
      exact absurd List.mem_cons_self free
    | cons c' w' =>
      obtain ⟨rfl, later⟩ := List.cons.inj h
      obtain ⟨rfl, rest⟩ := ih (List.not_mem_of_not_mem_cons free) (List.not_mem_of_not_mem_cons free') later
      exact ⟨rfl, rest⟩

theorem Address.render_inj {a a' : Address} (h : a.render = a'.render) : a = a' := by
  have read : parse a.render = .ok a' := by rw [h, parse_render]
  rw [parse_render] at read
  exact Except.ok.inj read

theorem Vlan.toDigits_inj {id id' : UInt16} (h : Nat.toDigits 10 id.toNat = Nat.toDigits 10 id'.toNat) :
    id = id' := by
  have read := number?_toDigits id.toNat_lt
  rw [h, number?_toDigits id'.toNat_lt, UInt16.ofNat_toNat, UInt16.ofNat_toNat] at read
  exact (Option.some.inj read).symm

namespace Key

variable {k k' : Key}

theorem toList_render (k : Key) : k.render.toList = "mac_key_t(vlan_id=".toList ++
    (Nat.toDigits 10 k.vlan.toNat ++ ',' :: (" eth_addr=".toList ++ (k.address.render.toList ++ [')']))) := by
  unfold render
  simp only [String.toList_append, show (toString k.vlan.toNat).toList = Nat.toDigits 10 k.vlan.toNat from
    Nat.toList_repr, List.append_assoc]
  rfl

/-- What follows a key starts where the key ends. -/
theorem render_append_inj {rest rest' : List Char} (h : k.render.toList ++ rest = k'.render.toList ++ rest') :
    k = k' ∧ rest = rest' := by
  have digits (n : Nat) : ',' ∉ Nat.toDigits 10 n := fun inside => by
    cases Nat.isDigit_of_mem_toDigits (by decide) (by decide) inside
  have unclosed (a : Address) : ')' ∉ a.render.toList := fun inside => by
    rcases a.mem_render inside with colon | digit
    · cases colon
    · exact digit.plain.2.2.2.1 rfl
  rw [toList_render, toList_render] at h
  simp only [List.append_assoc, List.cons_append, List.nil_append] at h
  obtain ⟨vlan, after⟩ := Text.append_cons_inj (digits _) (digits _) (List.append_cancel_left h)
  obtain ⟨address, same⟩ := Text.append_cons_inj (unclosed _) (unclosed _) (List.append_cancel_left after)
  rcases k with ⟨id, a⟩
  rcases k' with ⟨id', a'⟩
  obtain rfl : id = id' := Vlan.toDigits_inj vlan
  obtain rfl : a = a' := Address.render_inj (String.toList_inj.mp address)
  exact ⟨rfl, same⟩

theorem render_inj (h : k.render = k'.render) : k = k' :=
  (render_append_inj (congrArg (·.toList ++ []) h)).1

/-- A text that starts otherwise is no key. -/
theorem render_ne_of_take {text : String} (other : text.toList.take 5 ≠ "mac_k".toList) (k : Key) :
    k.render ≠ text := by
  rintro rfl
  rw [toList_render] at other
  exact other rfl

end Key

namespace Interface

def joined (l : List Interface) : String := ",".intercalate (l.map name)

theorem name_ne_nil (i : Interface) : i.name.toList ≠ [] := i.isName.1

theorem comma_notMem (i : Interface) : ',' ∉ i.name.toList := fun inside => by
  have plain := List.all_eq_true.mp i.isName.2 ',' inside
  cases plain

theorem name_noBlank (i : Interface) : Text.NoBlank i.name.toList := fun c inside => by
  have plain := List.all_eq_true.mp i.isName.2 c inside
  simpa using (Bool.and_eq_true_iff.mp plain).1

theorem toList_joined (l : List Interface) : (joined l).toList = [','].intercalate (l.map (·.name.toList)) := by
  rw [joined, String.toList_intercalate, List.map_map]
  rfl

theorem split_joined {l : List Interface} (full : l ≠ []) :
    Text.splitAtEach (· == ',') (joined l).toList = l.map (·.name.toList) := by
  rw [toList_joined]
  refine Text.splitAtEach_intercalate ?_ (mt List.map_eq_nil_iff.mp full)
  intro part listed
  obtain ⟨i, -, rfl⟩ := List.mem_map.mp listed
  exact i.comma_notMem

/-- An empty list is told apart by its empty part, which is no name. -/
theorem parts_joined (l : List Interface) :
    (Text.splitAtEach (· == ',') (joined l).toList).filter (! ·.isEmpty) = l.map (·.name.toList) := by
  cases l with
  | nil => rfl
  | cons i rest =>
    rw [split_joined (List.cons_ne_nil i rest), List.filter_eq_self]
    intro part listed
    obtain ⟨i, -, rfl⟩ := List.mem_map.mp listed
    simpa using i.name_ne_nil

theorem joined_inj {l l' : List Interface} (h : joined l = joined l') : l = l' := by
  have names : l.map (·.name.toList) = l'.map (·.name.toList) := by rw [← parts_joined, h, parts_joined]
  refine List.map_injective_iff.mpr (fun i i' same => ?_) names
  exact eq_of_name_eq (String.toList_inj.mp same)

end Interface

namespace Entry

variable {e e' : Entry}

theorem toList_render (e : Entry) : e.render.toList = "mac_entry_t(mac_key=".toList ++
    (e.key.render.toList ++ (", intfs='".toList ++ ((Interface.joined e.interfaces.toList).toList ++ "')".toList))) := by
  unfold render
  simp only [String.toList_append, List.append_assoc]
  rfl

theorem render_inj (h : e.render = e'.render) : e = e' := by
  have chars := congrArg String.toList h
  rw [toList_render, toList_render] at chars
  obtain ⟨key, rest⟩ := Key.render_append_inj (List.append_cancel_left chars)
  have names := List.append_cancel_right (List.append_cancel_left rest)
  have listed := Interface.joined_inj (String.toList_inj.mp names)
  rcases e with ⟨k, l, ascending⟩
  rcases e' with ⟨k', l', ascending'⟩
  obtain rfl : k = k' := key
  obtain rfl : l = l' := listed
  rfl

/-! ### Changes of an entry -/

/-- A change of the interfaces to which an entry forwards. -/
inductive Change where
  | set (i : Interface)
  | add (i : Interface)
  | remove (i : Interface)

def change (e : Entry) : Change → Entry
  | .set i => e.setInterface i
  | .add i => e.addInterface i
  | .remove i => e.removeInterface i

/-- What the change makes of a set. -/
def Change.on (members : Set Interface) : Change → Set Interface
  | .set i => {i}
  | .add i => insert i members
  | .remove i => members \ {i}

def members (e : Entry) : Set Interface := {i | i ∈ e.interfaces}

theorem members_change (e : Entry) (c : Change) : (e.change c).members = c.on e.members := by
  ext i
  cases c with
  | set j => exact InterfaceSet.mem_singleton
  | add j => exact InterfaceSet.mem_insert
  | remove j => exact InterfaceSet.mem_erase

theorem key_change (e : Entry) (c : Change) : (e.change c).key = e.key := by
  cases c with
  | set | add | remove => rfl

theorem foldl_change (e : Entry) (changes : List Change) :
    (changes.foldl change e).key = e.key ∧
      (changes.foldl change e).members = changes.foldl Change.on e.members := by
  induction changes generalizing e with
  | nil => exact ⟨rfl, rfl⟩
  | cons c changes ih =>
    obtain ⟨key, members⟩ := ih (e.change c)
    rw [key_change] at key
    rw [members_change] at members
    exact ⟨key, members⟩

theorem render_lists (e : Entry) : ∃ names : List String,
    e.render = "mac_entry_t(mac_key=" ++ e.key.render ++ ", intfs='" ++ ",".intercalate names ++ "')" ∧
    names.Pairwise (fun name name' => Text.bytes name < Text.bytes name') ∧
    ∀ name, name ∈ names ↔ ∃ i ∈ e.members, i.name = name := by
  refine ⟨e.interfaces.toList.map Interface.name, rfl, ?_, fun name => List.mem_map⟩
  refine List.pairwise_map.mpr (e.interfaces.ascending.imp fun {i j} below => ?_)
  exact Text.lt_iff_bytes_lt.mp below

end Entry

/-! ### Every kind of value -/

/-- Values of the type are equal if and only if they are printed alike. -/
def Canonical (α : Type) [ToString α] : Prop := ∀ a b : α, a = b ↔ toString a = toString b

theorem canonical_of_inj {α : Type} [ToString α] (h : ∀ a b : α, toString a = toString b → a = b) : Canonical α :=
  fun a b => ⟨congrArg toString, h a b⟩

/-- What printed values say of the values. -/
structure PrintsCanonically : Prop where
  address : Canonical Address
  vlan : Canonical Vlan
  interface : Canonical Interface
  key : Canonical Key
  entry : Canonical Entry
  /-- After any changes, an entry is printed with the interfaces that it then has. -/
  lists : ∀ (e : Entry) (changes : List Entry.Change), ∃ names : List String,
    toString (changes.foldl Entry.change e) =
      "mac_entry_t(mac_key=" ++ toString e.key ++ ", intfs='" ++ ",".intercalate names ++ "')" ∧
    names.Pairwise (fun name name' => Text.bytes name < Text.bytes name') ∧
    ∀ name, name ∈ names ↔ ∃ i ∈ changes.foldl Entry.Change.on e.members, i.name = name
  /-- In which order, and how often, interfaces are given does not count. -/
  unordered : ∀ (k : Key) (l l' : List Interface), (∀ i, i ∈ l ↔ i ∈ l') → Entry.multicast k l = Entry.multicast k l'
  /-- Nothing in an entry looks like another entry. -/
  parts : ∀ e e' : Entry, toString e = toString e' → e.key = e'.key ∧ e.members = e'.members
  /-- No key is printed as one of the fixed keys of the status. -/
  reserved : ∀ k : Key, toString k ∉ [StatusKey.greeting, StatusKey.installed, StatusKey.cleared]

theorem prints_canonically : PrintsCanonically where
  address := canonical_of_inj fun _ _ => Address.render_inj
  vlan := canonical_of_inj fun v v' h => by
    rcases v with ⟨id, usable⟩
    rcases v' with ⟨id', usable'⟩
    have read : Vlan.parse (toString id.toNat) = .ok ⟨id', usable'⟩ := by
      rw [show toString id.toNat = toString id'.toNat from h, Vlan.parse_toString]
    rw [Vlan.parse_toString usable] at read
    exact Except.ok.inj read
  interface := canonical_of_inj fun _ _ => Interface.eq_of_name_eq
  key := canonical_of_inj fun _ _ => Key.render_inj
  entry := canonical_of_inj fun _ _ => Entry.render_inj
  lists e changes := by
    obtain ⟨key, members⟩ := e.foldl_change changes
    obtain ⟨names, printed, ascending, listed⟩ := (changes.foldl Entry.change e).render_lists
    rw [key] at printed
    rw [members] at listed
    exact ⟨names, printed, ascending, listed⟩
  unordered k l l' same := congrArg (Entry.mk k) (InterfaceSet.ofList_congr same)
  parts e e' h := by
    obtain rfl := Entry.render_inj h
    exact ⟨rfl, rfl⟩
  reserved k := by
    simp only [List.mem_cons, List.not_mem_nil, or_false, not_or]
    exact ⟨k.render_ne_of_take (by decide), k.render_ne_of_take (by decide), k.render_ne_of_take (by decide)⟩

end MacAgent
