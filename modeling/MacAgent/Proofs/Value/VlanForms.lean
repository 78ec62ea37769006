import MacAgent.Proofs.Text.Numeral
import MacAgent.Proofs.Value.Written
import MacAgent.Text.Slice

/-! # How VLANs are written

A VLAN is written as a decimal number, which may start with zeros and may follow one plus sign and, before it,
one name. What else is given is refused, and the error says whether the number is reserved or the text is
none of this kind. -/

namespace MacAgent

open Text (IsDigit IsNumeral numberOf)

namespace Vlan

variable {c : Char} {d n : Nat} {text rest : List Char}

/-! ### Numbers -/

theorem isDigit_iff : IsDigit 10 c d ↔ ('0' ≤ c ∧ c ≤ '9') ∧ c.toNat - '0'.toNat = d := by
  constructor
  · rintro ⟨small, listed⟩
    have table : ∀ d < 10, ("0123456789abcdef".toList[d]?.toList ++ "0123456789ABCDEF".toList[d]?.toList).all
        fun c => ('0' ≤ c ∧ c ≤ '9') ∧ c.toNat - '0'.toNat = d := by decide
    refine List.all_iff_forall_prop.mp (table d small) c (List.mem_append.mpr ?_)
    exact listed.imp Option.mem_toList.mpr Option.mem_toList.mpr
  · rintro ⟨⟨low, high⟩, rfl⟩
    exact Text.isDigit_of_between 48 0 10 (by decide) low (Nat.lt_succ_of_le high)

theorem decimal?_eq_some_iff : decimal? text = some n ↔ IsNumeral 10 text n := by
  have value_of {values : List Nat} (each : List.Forall₂ (IsDigit 10) text values) :
      text.all (fun c => '0' ≤ c && c ≤ '9') = true ∧ text.map (fun c => c.toNat - '0'.toNat) = values := by
    induction each with
    | nil => exact ⟨rfl, rfl⟩
    | cons digit each ih =>
      obtain ⟨range, rfl⟩ := isDigit_iff.mp digit
      obtain ⟨all, rfl⟩ := ih
      simp [all, range]
  have folded : text.foldl (fun n c => 10 * n + (c.toNat - '0'.toNat)) 0 =
      numberOf 10 (text.map fun c => c.toNat - '0'.toNat) := by
    rw [← Text.foldl_digits, List.foldl_map]
  unfold decimal?
  rw [folded]
  constructor
  · intro h
    split at h
    · cases h
    · rename_i digits
      rw [Bool.or_eq_true, not_or, List.isEmpty_iff, Bool.not_eq_true', Bool.not_eq_false] at digits
      obtain rfl := Option.some.inj h
      refine ⟨digits.1, _, List.forall₂_map_right_iff.mpr (List.forall₂_same.mpr fun c inside => ?_), rfl⟩
      have range := List.all_eq_true.mp digits.2 c inside
      rw [Bool.and_eq_true, decide_eq_true_iff, decide_eq_true_iff] at range
      exact isDigit_iff.mpr ⟨range, rfl⟩
  · rintro ⟨some, values, each, rfl⟩
    obtain ⟨all, rfl⟩ := value_of each
    rw [if_neg]
    rw [Bool.or_eq_true, not_or, List.isEmpty_iff, Bool.not_eq_true', Bool.not_eq_false]
    exact ⟨some, all⟩

/-- The text writes the number in decimal, maybe after a plus sign. -/
inductive IsNumber : List Char → Nat → Prop where
  | plain {digits : List Char} {n : Nat} (numeral : IsNumeral 10 digits n) : IsNumber digits n
  | plus {digits : List Char} {n : Nat} (numeral : IsNumeral 10 digits n) : IsNumber ('+' :: digits) n

theorem number?_eq (text : List Char) : number? text = (decimal? (match text with
    | '+' :: digits => digits
    | digits => digits)).bind fun n => if n < 65536 then some (UInt16.ofNat n) else none := rfl

theorem isNumber_iff : IsNumber text n ↔ decimal? (match text with
    | '+' :: digits => digits
    | digits => digits) = some n := by
  rw [decimal?_eq_some_iff]
  constructor
  · intro h
    cases h with
    | plain numeral =>
      split
      · obtain ⟨d, digit⟩ := numeral.isDigit List.mem_cons_self
        exact absurd (isDigit_iff.mp digit).1.1 (by decide)
      · exact numeral
    | plus numeral => exact numeral
  · intro h
    split at h
    · exact .plus h
    · exact .plain h

theorem IsNumber.number? (h : IsNumber text n) :
    Vlan.number? text = if n < 65536 then some (UInt16.ofNat n) else none := by
  rw [number?_eq, isNumber_iff.mp h, Option.bind_some]

theorem number?_of_none (none : ∀ n, ¬IsNumber text n) : number? text = Option.none := by
  rw [number?_eq, Option.eq_none_iff_forall_ne_some.mpr fun n read => none n (isNumber_iff.mpr read)]
  rfl

/-! ### Names -/

/-- The letters of the name, each in either case. -/
def IsName (name : List Char) : Prop :=
  List.Forall₂ (fun c letter => c = letter ∨ c = letter.toUpper) name "vlan".toList

/-- What is left of a text without the name, if its first four bytes are the name. -/
inductive Leaves (text : List Char) : List Char → Prop where
  | named {name rest : List Char} (whole : text = name ++ rest) (four : Text.byteLength name = 4)
    (isName : IsName name) : Leaves text rest
  | plain (other : ∀ name rest, text = name ++ rest → Text.byteLength name = 4 → ¬IsName name) : Leaves text text

theorem asciiLower_eq_iff {letter : Char} (lower : letter ∈ "vlan".toList) :
    Text.asciiLower c = letter ↔ c = letter ∨ c = letter.toUpper := by
  constructor
  · intro h
    unfold Text.asciiLower at h
    split at h
    · rename_i upper
      have high : c.toNat ≤ 90 := of_decide_eq_true (Bool.and_eq_true_iff.mp upper).2
      have table : ∀ letter ∈ "vlan".toList, ∀ n < 91, Char.ofNat (n + 32) = letter →
          Char.ofNat n = letter.toUpper := List.all_iff_forall_prop.mp (by decide)
      have same := table letter lower c.toNat (Nat.lt_succ_of_le high) h
      rw [Char.ofNat_toNat] at same
      exact .inr same
    · exact .inl h
  · have table : ∀ letter ∈ "vlan".toList,
        Text.asciiLower letter = letter ∧ Text.asciiLower letter.toUpper = letter :=
      List.all_iff_forall_prop.mp (by decide)
    rintro (rfl | rfl)
    · exact (table _ lower).1
    · exact (table _ lower).2

theorem isName_iff {name : List Char} : IsName name ↔ name.map Text.asciiLower = "vlan".toList := by
  have each (letters : List Char) (lower : ∀ letter ∈ letters, letter ∈ "vlan".toList) (name : List Char) :
      List.Forall₂ (fun c letter => c = letter ∨ c = letter.toUpper) name letters ↔
        name.map Text.asciiLower = letters := by
    induction letters generalizing name with
    | nil => rw [List.forall₂_nil_right_iff, List.map_eq_nil_iff]
    | cons letter letters ih =>
      obtain ⟨first, later⟩ := List.forall_mem_cons.mp lower
      simp only [List.forall₂_cons_right_iff, List.map_eq_cons_iff, ih later, asciiLower_eq_iff first]
      refine exists_congr fun c => exists_congr fun rest => ?_
      rw [← and_assoc, and_comm]
  exact each _ (fun _ listed => listed) name

theorem IsName.byteLength {name : List Char} (h : IsName name) : Text.byteLength name = 4 := by
  have table : ∀ letter ∈ "vlan".toList, letter.utf8Size = 1 ∧ letter.toUpper.utf8Size = 1 :=
    List.all_iff_forall_prop.mp (by decide)
  have each (letters : List Char) (small : ∀ letter ∈ letters, letter ∈ "vlan".toList) (name : List Char)
      (written : List.Forall₂ (fun c letter => c = letter ∨ c = letter.toUpper) name letters) :
      Text.byteLength name = letters.length := by
    induction written with
    | nil => rfl
    | cons letter written ih =>
      obtain ⟨first, later⟩ := List.forall_mem_cons.mp small
      rw [Text.byteLength, ih later, List.length_cons, Nat.add_comm]
      rcases letter with rfl | rfl
      · rw [(table _ first).1]
      · rw [(table _ first).2]
  exact each _ (fun _ listed => listed) name h

theorem Leaves.eq_dropName (h : Leaves text rest) : rest = dropName text := by
  cases h with
  | @named name _ whole four isName =>
    subst whole
    have size : name.length = 4 := isName.length_eq
    match name, size with
    | [v, l, a, n], _ => exact (if_pos (isName_iff.mp isName)).symm
  | plain other =>
    unfold dropName
    split
    · rename_i v l a n rest
      rw [if_neg]
      intro named
      have isName : IsName [v, l, a, n] := isName_iff.mpr named
      exact other _ rest rfl isName.byteLength isName
    · rfl

theorem leaves_iff : Leaves text rest ↔ rest = dropName text := by
  refine ⟨Leaves.eq_dropName, ?_⟩
  rintro rfl
  by_cases named : ∃ name rest, text = name ++ rest ∧ IsName name
  · obtain ⟨name, rest, whole, isName⟩ := named
    have left : Leaves text rest := .named whole isName.byteLength isName
    exact left.eq_dropName ▸ left
  · have left : Leaves text text := .plain fun name rest whole _ isName => named ⟨name, rest, whole, isName⟩
    exact left.eq_dropName ▸ left

/-! ### Reading -/

/-- What is read of a text of which `rest` is left without the name. -/
inductive Reads (text : String) (rest : List Char) : Except FormatError Vlan → Prop where
  | usable {n : Nat} {v : Vlan} (number : IsNumber rest n) (range : 1 ≤ n ∧ n ≤ 4094) (same : v.id.toNat = n) :
    Reads text rest (.ok v)
  | reserved {n : Nat} {id : UInt16} (number : IsNumber rest n) (range : n = 0 ∨ 4095 ≤ n ∧ n ≤ 65535)
    (same : id.toNat = n) : Reads text rest (.error (.reservedVlan id))
  | large {n : Nat} (number : IsNumber rest n) (range : 65535 < n) : Reads text rest (.error (.vlan text))
  | other (none : ∀ n, ¬IsNumber rest n) : Reads text rest (.error (.vlan text))

theorem parse_of_number {s : String} {id : UInt16} (number : IsNumber (dropName s.toList) id.toNat) :
    parse s = ofId id := by
  unfold parse
  rw [number.number?, if_pos id.toNat_lt, UInt16.ofNat_toNat]

theorem Reads.parse {s : String} {result : Except FormatError Vlan} (h : Reads s (dropName s.toList) result) :
    parse s = result := by
  cases h with
  | usable number range same =>
    subst same
    rw [parse_of_number number]
    exact dif_pos range
  | @reserved _ id number range same =>
    subst same
    rw [parse_of_number number]
    refine dif_neg fun usable => ?_
    obtain ⟨low, high⟩ := usable
    omega
  | large number range =>
    unfold Vlan.parse
    rw [number.number?, if_neg (by omega)]
  | other none =>
    unfold Vlan.parse
    rw [number?_of_none none]

theorem parse_reads (s : String) : Reads s (dropName s.toList) (parse s) := by
  by_cases numbered : ∃ n, IsNumber (dropName s.toList) n
  · obtain ⟨n, number⟩ := numbered
    rcases Nat.lt_or_ge n 65536 with small | large
    · have same : (UInt16.ofNat n).toNat = n := UInt16.toNat_ofNat_of_lt' small
      by_cases usable : 1 ≤ n ∧ n ≤ 4094
      · have isUsable : Usable (UInt16.ofNat n) := by
          unfold Usable
          rwa [same]
        have read : Reads s (dropName s.toList) (.ok ⟨UInt16.ofNat n, isUsable⟩) := .usable number usable same
        exact read.parse ▸ read
      · have read : Reads s (dropName s.toList) (.error (.reservedVlan (UInt16.ofNat n))) :=
          .reserved number (by omega) same
        exact read.parse ▸ read
    · have read : Reads s (dropName s.toList) (.error (.vlan s)) := .large number large
      exact read.parse ▸ read
  · have read : Reads s (dropName s.toList) (.error (.vlan s)) := .other (not_exists.mp numbered)
    exact read.parse ▸ read

theorem parse_eq_iff {s : String} {result : Except FormatError Vlan} :
    parse s = result ↔ ∃ rest, Leaves s.toList rest ∧ Reads s rest result := by
  constructor
  · rintro rfl
    exact ⟨_, leaves_iff.mpr rfl, parse_reads s⟩
  · rintro ⟨rest, left, read⟩
    obtain rfl := left.eq_dropName
    exact read.parse

theorem toString_isNumber (v : Vlan) : IsNumber (toString v).toList v.id.toNat := by
  have digits : (toString v).toList = Nat.toDigits 10 v.id.toNat := Nat.toList_repr
  rw [digits]
  exact .plain (decimal?_eq_some_iff.mp (decimal?_toDigits v.id.toNat))

/-- What is read as a VLAN or in the place of one, and how what is printed is read. -/
structure ReadsNumbers : Prop where
  read : ∀ (s : String) (result : Except FormatError Vlan),
    parse s = result ↔ ∃ rest, Leaves s.toList rest ∧ Reads s rest result
  printed : ∀ v : Vlan, parse (toString v) = .ok v
  named : ∀ (v : Vlan) (name : String), IsName name.toList → parse (name ++ toString v) = .ok v
  key : ∀ k : Key, Key.parse (toString k.vlan.toNat) (toString k.address) = .ok k ↔ Usable k.vlan

theorem reads_numbers : ReadsNumbers where
  read _ _ := parse_eq_iff
  printed v := parse_toString v.usable
  named v name isName := by
    have left : Leaves (name ++ toString v).toList (toString v).toList := by
      rw [String.toList_append]
      exact .named rfl isName.byteLength isName
    exact parse_eq_iff.mpr ⟨_, left, .usable v.toString_isNumber v.usable rfl⟩
  key _ := ⟨Key.parse_usable, Key.parse_render⟩

end Vlan

end MacAgent
