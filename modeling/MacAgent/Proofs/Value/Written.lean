import MacAgent.Proofs.Text.Words
import MacAgent.Value.Key

/-! # Written values are read again

What is printed of an address or a VLAN is one of the forms in which it may be written. -/

namespace MacAgent

namespace Address

variable {c : Char}

/-! ### Addresses -/

theorem hexValue?_hexDigit : ∀ n < 16, hexValue? (Text.hexDigit n) = some n := by decide

/-- A character that may stand in a printed octet. -/
def IsHexDigit (c : Char) : Prop := ∃ n < 16, c = Text.hexDigit n

theorem hexPair_digits {octet : UInt8} (h : c ∈ hexPair octet) : IsHexDigit c := by
  have bound : octet.toNat < 256 := octet.toNat_lt
  simp only [hexPair, List.mem_cons, List.not_mem_nil, or_false] at h
  rcases h with rfl | rfl
  · exact ⟨_, by omega, rfl⟩
  · exact ⟨_, by omega, rfl⟩

/-- No digit is a separator or a blank. -/
theorem IsHexDigit.plain (h : IsHexDigit c) :
    c ≠ ':' ∧ c ≠ '-' ∧ c ≠ '.' ∧ c ≠ ')' ∧ Text.isBlank c = false := by
  obtain ⟨n, bound, rfl⟩ := h
  exact (by decide : ∀ n < 16, Text.hexDigit n ≠ ':' ∧ Text.hexDigit n ≠ '-' ∧ Text.hexDigit n ≠ '.' ∧
    Text.hexDigit n ≠ ')' ∧ Text.isBlank (Text.hexDigit n) = false) n bound

theorem group?_hexPair (octet : UInt8) : group? 1 (hexPair octet) = some [octet] := by
  have bound : octet.toNat < 256 := octet.toNat_lt
  have high := hexValue?_hexDigit (octet.toNat / 16) (by omega)
  have low := hexValue?_hexDigit (octet.toNat % 16) (by omega)
  have whole : 16 * (16 * 0 + octet.toNat / 16) + octet.toNat % 16 = octet.toNat := by omega
  have number : hexNumber? (hexPair octet) = some octet.toNat := by
    simp only [hexNumber?, hexPair, List.foldlM_cons, List.foldlM_nil, high, low]
    exact congrArg some whole
  show (hexNumber? (hexPair octet)).map (octetsOf 1) = some [octet]
  rw [number]
  simp [octetsOf]

theorem toList_render (a : Address) : a.render.toList = [':'].intercalate (a.octets.map hexPair) :=
  String.toList_ofList

theorem mem_render (a : Address) (h : c ∈ a.render.toList) : c = ':' ∨ IsHexDigit c := by
  rw [toList_render] at h
  rcases Text.mem_intercalate h with between | ⟨pair, listed, inside⟩
  · exact .inl (List.mem_singleton.mp between)
  · obtain ⟨octet, -, rfl⟩ := List.mem_map.mp listed
    exact .inr (hexPair_digits inside)

theorem render_noBlank (a : Address) : Text.NoBlank a.render.toList := by
  intro c h
  rcases a.mem_render h with rfl | digit
  · rfl
  · exact digit.plain.2.2.2.2

theorem find?_separator (a : Address) :
    a.render.toList.find? (fun c => c == ':' || c == '-' || c == '.') = some ':' := by
  rcases a with ⟨octets, six⟩
  match octets, six with
  | first :: second :: rest, _ =>
    have skipped : (hexPair first).find? (fun c => c == ':' || c == '-' || c == '.') = none := by
      rw [List.find?_eq_none]
      intro c member
      obtain ⟨colon, hyphen, dot, -⟩ := (hexPair_digits member).plain
      simp [colon, hyphen, dot]
    rw [toList_render, List.map_cons, List.map_cons, List.intercalate_cons_cons, List.append_assoc,
      List.find?_append, skipped]
    rfl

theorem grouped?_render (a : Address) : grouped? 1 ':' a.render.toList = some a := by
  have some_octets : a.octets.map hexPair ≠ [] := by
    intro none
    have six := a.length_eq
    rw [List.map_eq_nil_iff.mp none] at six
    cases six
  have free : ∀ pair ∈ a.octets.map hexPair, ':' ∉ pair := by
    intro pair listed inside
    obtain ⟨octet, -, rfl⟩ := List.mem_map.mp listed
    exact (hexPair_digits inside).plain.1 rfl
  have read : (a.octets.map hexPair).mapM (group? 1) = some (a.octets.map ([·])) := by
    rw [List.mapM_map, show group? 1 ∘ hexPair = fun octet => pure [octet] from funext group?_hexPair]
    exact List.mapM_pure
  have joined : (a.octets.map ([·])).flatten = a.octets := by
    rw [← List.flatMap_def, List.flatMap_singleton']
  unfold grouped?
  rw [toList_render, Text.splitAtEach_intercalate free some_octets, read]
  show ofOctets? (a.octets.map ([·])).flatten = some a
  rw [joined]
  exact dif_pos a.length_eq

theorem ofChars?_render (a : Address) : ofChars? a.render.toList = some a := by
  unfold ofChars?
  rw [find?_separator]
  exact grouped?_render a

theorem parse_render (a : Address) : parse a.render = .ok a := by
  unfold parse
  dsimp only
  rw [Text.trim_of_noBlank a.render_noBlank, ofChars?_render]

end Address

namespace Vlan

/-! ### VLANs -/

theorem asciiLower_of_isDigit {c : Char} (h : c.isDigit = true) : Text.asciiLower c = c := by
  have low : c.val ≤ '9'.val := of_decide_eq_true (Bool.and_eq_true_iff.mp h).2
  refine if_neg fun letter => ?_
  have high : 'A' ≤ c := of_decide_eq_true (Bool.and_eq_true_iff.mp letter).1
  exact absurd (UInt32.le_trans high low) (by decide)

theorem toString_noBlank (n : Nat) : Text.NoBlank (toString n).toList := by
  intro c inside
  have digits : (toString n).toList = Nat.toDigits 10 n := Nat.toList_repr
  rw [digits] at inside
  have digit : c.isDigit = true := Nat.isDigit_of_mem_toDigits (by decide) (by decide) inside
  have low : 48 ≤ c.toNat := of_decide_eq_true (Bool.and_eq_true_iff.mp digit).1
  have high : c.toNat ≤ 57 := of_decide_eq_true (Bool.and_eq_true_iff.mp digit).2
  simp [Text.isBlank]
  omega

theorem dropName_of_digits {text : List Char} (h : ∀ c ∈ text, c.isDigit = true) : dropName text = text := by
  unfold dropName
  split
  · rename_i v l a n rest
    rw [if_neg]
    intro named
    have digit := h v List.mem_cons_self
    have letter : Text.asciiLower v = 'v' := (List.cons.inj named).1
    rw [asciiLower_of_isDigit digit] at letter
    rw [letter] at digit
    cases digit
  · rfl

theorem decimal?_toDigits (n : Nat) : decimal? (Nat.toDigits 10 n) = some n := by
  have digits : (Nat.toDigits 10 n).all (fun c => '0' ≤ c && c ≤ '9') = true := by
    rw [List.all_eq_true]
    intro c member
    exact Nat.isDigit_of_mem_toDigits (by decide) (by decide) member
  have number : (Nat.toDigits 10 n).foldl (fun n c => 10 * n + (c.toNat - '0'.toNat)) 0 = n := by
    rw [← Nat.ofDigitChars_eq_foldl, Nat.ofDigitChars_ten_toDigits]
  unfold decimal?
  rw [number, digits, List.isEmpty_eq_false_iff.mpr Nat.toDigits_ne_nil]
  rfl

theorem number?_toDigits {n : Nat} (h : n < 65536) : number? (Nat.toDigits 10 n) = some (UInt16.ofNat n) := by
  unfold number?
  split
  · rename_i digits plus
    have digit : '+'.isDigit = true :=
      Nat.isDigit_of_mem_toDigits (by decide) (by decide) (plus ▸ List.mem_cons_self)
    cases digit
  · rw [decimal?_toDigits]
    exact if_pos h

theorem parse_toString {id : UInt16} (h : Usable id) : parse (toString id.toNat) = .ok ⟨id, h⟩ := by
  have digits : (toString id.toNat).toList = Nat.toDigits 10 id.toNat := Nat.toList_repr
  have plain : ∀ c ∈ Nat.toDigits 10 id.toNat, c.isDigit = true :=
    fun c member => Nat.isDigit_of_mem_toDigits (by decide) (by decide) member
  unfold parse
  rw [digits, dropName_of_digits plain, number?_toDigits id.toNat_lt, UInt16.ofNat_toNat]
  exact dif_pos h

end Vlan

theorem Key.parse_render {k : Key} (usable : Vlan.Usable k.vlan) :
    Key.parse (toString k.vlan.toNat) k.address.render = .ok k := by
  unfold Key.parse
  rw [Vlan.parse_toString usable, Address.parse_render]
  rfl

theorem bind_eq_ok {ε α β : Type} {x : Except ε α} {f : α → Except ε β} {b : β} :
    x >>= f = .ok b ↔ ∃ a, x = .ok a ∧ f a = .ok b := by
  constructor
  · intro h
    cases x with
    | error fault => cases h
    | ok a => exact ⟨a, rfl, h⟩
  · rintro ⟨a, rfl, h⟩
    exact h

theorem Key.parse_usable {vlan address : String} {k : Key} (h : Key.parse vlan address = .ok k) :
    Vlan.Usable k.vlan := by
  obtain ⟨v, -, rest⟩ := bind_eq_ok.mp h
  obtain ⟨a, -, made⟩ := bind_eq_ok.mp rest
  cases made
  exact v.usable

end MacAgent
