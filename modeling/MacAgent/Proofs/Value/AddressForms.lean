import Mathlib.Data.List.Forall2
import Mathlib.Data.Set.List
import MacAgent.Proofs.Text.Numeral
import MacAgent.Proofs.Value.Written

/-! # The forms of an address

An address may be written in three forms, with digits in either case, and a group of digits may leave out
leading zeros. These texts, with any blanks around them, are what is read as an address. The canonical text
is one of them, and the only one that is printed. -/

namespace MacAgent

open Text (IsDigit IsNumeral numberOf)

/-- In a monad whose computations give a value or none, a list is mapped to the values of its members if
each of these has one. -/
theorem mapM_eq_pure_iff {m : Type → Type} [Monad m] [LawfulMonad m] {α β : Type} {f : α → m β}
    (bind : ∀ {γ δ : Type} {x : m γ} {k : γ → m δ} {b : δ}, x >>= k = pure b ↔ ∃ a, x = pure a ∧ k a = pure b)
    (inj : ∀ {γ : Type} {a b : γ}, (pure a : m γ) = pure b ↔ a = b) {l : List α} {l' : List β} :
    l.mapM f = pure l' ↔ List.Forall₂ (fun a b => f a = pure b) l l' := by
  induction l generalizing l' with
  | nil => rw [List.mapM_nil, inj, List.forall₂_nil_left_iff, eq_comm]
  | cons a l ih =>
    rw [List.mapM_cons, bind, List.forall₂_cons_left_iff]
    refine exists_congr fun b => ?_
    rw [bind, ← exists_and_left]
    refine exists_congr fun rest => ?_
    rw [ih, inj, eq_comm (a := l')]

namespace Address

variable {c : Char} {d n w : Nat} {text digits : List Char} {octets : List UInt8} {a : Address}

/-! ### Groups of digits -/

theorem hexValue?_eq_some_iff : hexValue? c = some d ↔ IsDigit 16 c d := by
  constructor
  · intro h
    unfold hexValue? at h
    split at h
    · rename_i decimal
      obtain ⟨low, high⟩ := Bool.and_eq_true_iff.mp decimal
      obtain rfl := Option.some.inj h
      exact Text.isDigit_of_between 48 0 10 (by decide) (of_decide_eq_true low)
        (Nat.lt_succ_of_le (of_decide_eq_true high))
    · split at h
      · rename_i lower
        obtain ⟨low, high⟩ := Bool.and_eq_true_iff.mp lower
        obtain rfl := Option.some.inj h
        exact Text.isDigit_of_between 97 10 6 (by decide) (of_decide_eq_true low)
          (Nat.lt_succ_of_le (of_decide_eq_true high))
      · split at h
        · rename_i upper
          obtain ⟨low, high⟩ := Bool.and_eq_true_iff.mp upper
          obtain rfl := Option.some.inj h
          exact Text.isDigit_of_between 65 10 6 (by decide) (of_decide_eq_true low)
            (Nat.lt_succ_of_le (of_decide_eq_true high))
        · cases h
  · rintro ⟨small, lower | upper⟩
    · have table : ∀ d < 16, "0123456789abcdef".toList[d]?.bind hexValue? = some d := by decide
      have read := table d small
      rwa [lower] at read
    · have table : ∀ d < 16, "0123456789ABCDEF".toList[d]?.bind hexValue? = some d := by decide
      have read := table d small
      rwa [upper] at read

theorem hexNumber?_eq_some_iff :
    hexNumber? text = some n ↔ ∃ values, List.Forall₂ (IsDigit 16) text values ∧ numberOf 16 values = n := by
  have folded (start : Nat) : text.foldlM (fun n c => do return 16 * n + (← hexValue? c)) start = some n ↔
      ∃ values, List.Forall₂ (IsDigit 16) text values ∧ values.foldl (fun n d => 16 * n + d) start = n := by
    induction text generalizing start with
    | nil => simp
    | cons c text ih =>
      have step (next : Nat) : (do return 16 * start + (← hexValue? c) : Option Nat) = some next ↔
          ∃ d, IsDigit 16 c d ∧ 16 * start + d = next := by
        simp [Option.bind_eq_some_iff, hexValue?_eq_some_iff]
      rw [List.foldlM_cons]
      refine Option.bind_eq_some_iff.trans ?_
      simp only [step, ih, List.forall₂_cons_left_iff]
      constructor
      · rintro ⟨_, ⟨d, digit, rfl⟩, values, each, number⟩
        exact ⟨d :: values, ⟨d, values, digit, each, rfl⟩, number⟩
      · rintro ⟨_, ⟨d, values, digit, each, rfl⟩, number⟩
        exact ⟨_, ⟨d, digit, rfl⟩, values, each, number⟩
  rw [hexNumber?, folded]
  simp only [Text.foldl_digits]

theorem length_octetsOf (width n : Nat) : (octetsOf width n).length = width := by
  induction width generalizing n with
  | zero => rfl
  | succ width ih => rw [octetsOf, List.length_append, ih, List.length_singleton]

theorem numberOf_octetsOf (fits : n < 256 ^ w) : numberOf 256 ((octetsOf w n).map UInt8.toNat) = n := by
  induction w generalizing n with
  | zero =>
    obtain rfl : n = 0 := by omega
    rfl
  | succ w ih =>
    have higher : n / 256 < 256 ^ w := by
      rw [Nat.pow_succ] at fits
      omega
    rw [octetsOf, List.map_append, List.map_singleton, Text.numberOf_concat, ih higher, UInt8.toNat_ofNat']
    omega

theorem octetsOf_numberOf (octets : List UInt8) :
    octetsOf octets.length (numberOf 256 (octets.map UInt8.toNat)) = octets := by
  induction octets using List.reverseRecOn with
  | nil => rfl
  | append_singleton octets octet ih =>
    have bound : octet.toNat < 256 := octet.toNat_lt
    rw [List.map_append, List.map_singleton, Text.numberOf_concat, List.length_append, List.length_singleton,
      octetsOf]
    have higher : (256 * numberOf 256 (octets.map UInt8.toNat) + octet.toNat) / 256 =
        numberOf 256 (octets.map UInt8.toNat) := by omega
    have lowest : UInt8.ofNat (256 * numberOf 256 (octets.map UInt8.toNat) + octet.toNat) = octet := by
      refine UInt8.toNat_inj.mp ?_
      rw [UInt8.toNat_ofNat']
      omega
    rw [higher, ih, lowest]

/-- The digits write the number of the octets, the highest octet first. Leading zeros may be left out. -/
structure IsGroup (width : Nat) (digits : List Char) (octets : List UInt8) : Prop where
  short : digits.length ≤ 2 * width
  size : octets.length = width
  number : IsNumeral 16 digits (numberOf 256 (octets.map UInt8.toNat))

theorem group?_eq_some_iff : group? w digits = some octets ↔ IsGroup w digits octets := by
  constructor
  · intro h
    unfold group? at h
    split at h
    · cases h
    · rename_i fits
      rw [Bool.or_eq_true, not_or, List.isEmpty_iff, decide_eq_true_iff, Nat.not_lt] at fits
      obtain ⟨n, read, rfl⟩ := Option.map_eq_some_iff.mp h
      have numeral : IsNumeral 16 digits n := ⟨fits.1, hexNumber?_eq_some_iff.mp read⟩
      have bound : n < 256 ^ w := by
        calc n < 16 ^ digits.length := numeral.lt (by decide)
          _ ≤ 16 ^ (2 * w) := Nat.pow_le_pow_right (by decide) fits.2
          _ = 256 ^ w := Nat.pow_mul 16 2 w
      refine ⟨fits.2, length_octetsOf w n, ?_⟩
      rwa [numberOf_octetsOf bound]
  · rintro ⟨short, rfl, some, numeral⟩
    unfold group?
    rw [if_neg, hexNumber?_eq_some_iff.mpr numeral, Option.map_some, octetsOf_numberOf]
    rw [Bool.or_eq_true, not_or, List.isEmpty_iff, decide_eq_true_iff, Nat.not_lt]
    exact ⟨some, short⟩

theorem isGroup_flatMap (octets : List UInt8) (some : octets ≠ []) :
    IsGroup octets.length (octets.flatMap hexPair) octets := by
  have digits (n : Nat) (h : n < 16) : IsDigit 16 (Text.hexDigit n) n :=
    (by decide : ∀ n < 16, IsDigit 16 (Text.hexDigit n) n) n h
  have numeral : ∃ values, List.Forall₂ (IsDigit 16) (octets.flatMap hexPair) values ∧
      numberOf 16 values = numberOf 256 (octets.map UInt8.toNat) := by
    clear some
    induction octets using List.reverseRecOn with
    | nil => exact ⟨[], .nil, rfl⟩
    | append_singleton octets octet ih =>
      obtain ⟨values, each, number⟩ := ih
      have bound : octet.toNat < 256 := octet.toNat_lt
      refine ⟨values ++ [octet.toNat / 16] ++ [octet.toNat % 16], ?_, ?_⟩
      · rw [List.flatMap_append, List.flatMap_singleton, List.append_assoc]
        exact List.rel_append each
          (.cons (digits _ (by omega)) (.cons (digits _ (by omega)) .nil))
      · rw [Text.numberOf_concat, Text.numberOf_concat, number, List.map_append, List.map_singleton,
          Text.numberOf_concat]
        omega
  refine ⟨?_, rfl, ?_, numeral⟩
  · rw [List.length_flatMap]
    simp [hexPair, Nat.mul_comm]
  · cases octets with
    | nil => exact absurd rfl some
    | cons octet octets => exact List.cons_ne_nil _ _

/-! ### Forms -/

inductive Form where
  | colons
  | hyphens
  | dots
deriving DecidableEq

namespace Form

def separator : Form → Char
  | colons => ':'
  | hyphens => '-'
  | dots => '.'

/-- How many octets a group stands for. -/
def width : Form → Nat
  | colons | hyphens => 1
  | dots => 2

/-- How many groups there are. -/
def size : Form → Nat
  | colons | hyphens => 6
  | dots => 3

/-- The text writes the address in this form. -/
def Writes (f : Form) (text : List Char) (a : Address) : Prop :=
  ∃ groups pieces, groups.length = f.size ∧ text = [f.separator].intercalate groups ∧
    List.Forall₂ (IsGroup f.width) groups pieces ∧ pieces.flatten = a.octets

end Form

theorem plain_of_isDigit (h : IsDigit 16 c d) : (∀ f : Form, c ≠ f.separator) ∧ Text.isBlank c = false := by
  have plain : ∀ c ∈ "0123456789abcdef".toList ++ "0123456789ABCDEF".toList,
      c ≠ ':' ∧ c ≠ '-' ∧ c ≠ '.' ∧ Text.isBlank c = false := List.all_iff_forall_prop.mp (by decide)
  have listed := List.mem_append.mpr (h.2.imp List.mem_of_getElem? List.mem_of_getElem?)
  obtain ⟨colon, hyphen, dot, noBlank⟩ := plain c listed
  refine ⟨fun f => ?_, noBlank⟩
  cases f with
  | colons => exact colon
  | hyphens => exact hyphen
  | dots => exact dot

theorem grouped?_eq_some_iff {sep : Char} : grouped? w sep text = some a ↔
    ∃ pieces, List.Forall₂ (IsGroup w) (Text.splitAtEach (· == sep) text) pieces ∧ pieces.flatten = a.octets := by
  have mapped {pieces : List (List UInt8)} :
      (Text.splitAtEach (· == sep) text).mapM (group? w) = some pieces ↔
        List.Forall₂ (IsGroup w) (Text.splitAtEach (· == sep) text) pieces := by
    refine (mapM_eq_pure_iff Option.bind_eq_some_iff Option.some_inj).trans ?_
    simp only [Option.pure_def, group?_eq_some_iff]
  unfold grouped?
  refine Option.bind_eq_some_iff.trans (exists_congr fun pieces => ?_)
  rw [mapped]
  refine and_congr_right fun _ => ?_
  unfold ofOctets?
  constructor
  · intro h
    split at h
    · obtain rfl := Option.some.inj h
      rfl
    · cases h
  · intro whole
    have six : pieces.flatten.length = 6 := whole ▸ a.length_eq
    rw [dif_pos six]
    congr

theorem length_flatten_pieces {groups : List (List Char)} {pieces : List (List UInt8)}
    (each : List.Forall₂ (IsGroup w) groups pieces) : pieces.flatten.length = w * groups.length := by
  induction each with
  | nil => simp
  | cons group each ih =>
    rw [List.flatten_cons, List.length_append, group.size, ih, List.length_cons, Nat.mul_succ, Nat.add_comm]

namespace Form

variable {f : Form}

theorem isDigit_of_group {groups : List (List Char)} {pieces : List (List UInt8)}
    (each : List.Forall₂ (IsGroup w) groups pieces) {group : List Char} (listed : group ∈ groups)
    (inside : c ∈ group) : ∃ d, IsDigit 16 c d := by
  obtain ⟨piece, -, written⟩ := Text.exists_of_forall₂ each listed
  exact written.number.isDigit inside

/-- The groups are found between the separators. -/
theorem writes_iff_grouped : f.Writes text a ↔ grouped? f.width f.separator text = some a := by
  rw [grouped?_eq_some_iff]
  constructor
  · rintro ⟨groups, pieces, size, rfl, each, whole⟩
    have some_group : groups ≠ [] := by
      rintro rfl
      cases f with
      | colons | hyphens | dots => cases size
    have free : ∀ group ∈ groups, f.separator ∉ group := by
      intro group listed inside
      obtain ⟨d, digit⟩ := isDigit_of_group each listed inside
      exact (plain_of_isDigit digit).1 f rfl
    rw [Text.splitAtEach_intercalate free some_group]
    exact ⟨pieces, each, whole⟩
  · rintro ⟨pieces, each, whole⟩
    refine ⟨_, pieces, ?_, (Text.intercalate_splitAtEach _ _).symm, each, whole⟩
    have count := length_flatten_pieces each
    rw [whole, a.length_eq] at count
    cases f with
    | colons | hyphens | dots =>
      simp only [width, size] at count ⊢
      omega

/-- The first separator of a text tells its form. -/
theorem Writes.find?_separator (h : f.Writes text a) :
    text.find? (fun c => c == ':' || c == '-' || c == '.') = some f.separator := by
  obtain ⟨groups, pieces, size, rfl, each, -⟩ := h
  have two : 2 ≤ groups.length := by
    rw [size]
    cases f with
    | colons | hyphens | dots => decide
  match groups, two with
  | first :: second :: rest, _ =>
    have skipped : first.find? (fun c => c == ':' || c == '-' || c == '.') = none := by
      rw [List.find?_eq_none]
      intro c inside
      obtain ⟨d, digit⟩ := isDigit_of_group each List.mem_cons_self inside
      have other := (plain_of_isDigit digit).1
      simp [show c ≠ ':' from other .colons, show c ≠ '-' from other .hyphens, show c ≠ '.' from other .dots]
    rw [List.intercalate_cons_cons, List.append_assoc, List.find?_append, skipped]
    cases f with
    | colons | hyphens | dots => rfl

end Form

/-- What is read without outer blanks is what is written in one of the forms. -/
theorem ofChars?_eq_some_iff : ofChars? text = some a ↔ ∃ f : Form, f.Writes text a := by
  constructor
  · intro h
    unfold ofChars? at h
    split at h
    · exact ⟨.dots, Form.writes_iff_grouped.mpr h⟩
    · rename_i sep _ found
      have separates := List.find?_some found
      simp only [Bool.or_eq_true, beq_iff_eq] at separates
      rcases separates with (rfl | rfl) | rfl
      · exact ⟨.colons, Form.writes_iff_grouped.mpr h⟩
      · exact ⟨.hyphens, Form.writes_iff_grouped.mpr h⟩
      · contradiction
    · cases h
  · rintro ⟨f, written⟩
    have read := Form.writes_iff_grouped.mp written
    unfold ofChars?
    rw [written.find?_separator]
    cases f with
    | colons | hyphens | dots => exact read

/-! ### Reading -/

theorem parse_eq_ok_iff {s : String} : parse s = .ok a ↔ ∃ f : Form, f.Writes (Text.trim s.toList) a := by
  rw [← ofChars?_eq_some_iff]
  unfold parse
  dsimp only
  constructor
  · intro h
    split at h
    · rename_i read
      obtain rfl := Except.ok.inj h
      exact read
    · cases h
  · intro read
    rw [read]

theorem parse_eq_error_iff {s : String} {e : FormatError} : parse s = .error e ↔
    (∀ (f : Form) (a : Address), ¬f.Writes (Text.trim s.toList) a) ∧
      e = .address (String.ofList (Text.trim s.toList)) := by
  have none_iff : (∀ (f : Form) (a : Address), ¬f.Writes (Text.trim s.toList) a) ↔
      ofChars? (Text.trim s.toList) = none := by
    rw [Option.eq_none_iff_forall_ne_some, forall_comm]
    exact forall_congr' fun a => by rw [Ne, ofChars?_eq_some_iff, not_exists]
  rw [none_iff]
  unfold parse
  dsimp only
  constructor
  · intro h
    split at h
    · cases h
    · rename_i read
      exact ⟨read, (Except.error.inj h).symm⟩
  · rintro ⟨read, rfl⟩
    rw [read]

namespace Form

variable {f : Form}

theorem Writes.noBlank (h : f.Writes text a) : Text.NoBlank text := by
  obtain ⟨groups, pieces, -, rfl, each, -⟩ := h
  intro c inside
  rcases Text.mem_intercalate inside with between | ⟨group, listed, inside⟩
  · rw [List.mem_singleton.mp between]
    cases f with
    | colons | hyphens | dots => rfl
  · obtain ⟨d, digit⟩ := isDigit_of_group each listed inside
    exact (plain_of_isDigit digit).2

theorem Writes.parse {s : String} (h : f.Writes s.toList a) : parse s = .ok a := by
  rw [parse_eq_ok_iff, Text.trim_of_noBlank h.noBlank]
  exact ⟨f, h⟩

/-- A change of the characters that leaves the separator and all digits as they are changes no address. -/
theorem Writes.map {g : Char → Char} (keeps : ∀ c d, IsDigit 16 c d → IsDigit 16 (g c) d)
    (between : g f.separator = f.separator) (h : f.Writes text a) : f.Writes (text.map g) a := by
  obtain ⟨groups, pieces, size, rfl, each, whole⟩ := h
  refine ⟨groups.map (List.map g), pieces, (List.length_map _).trans size, ?_, ?_, whole⟩
  · rw [Text.map_intercalate, List.map_singleton, between]
  · refine List.forall₂_map_left_iff.mpr (each.imp fun group piece written => ?_)
    exact ⟨(List.length_map g).symm ▸ written.short, written.size, written.number.map keeps⟩

theorem isDigit_toUpper (h : IsDigit 16 c d) : IsDigit 16 c.toUpper d := by
  have table : ∀ d < 16, "0123456789abcdef".toList[d]?.map Char.toUpper = "0123456789ABCDEF".toList[d]? ∧
      "0123456789ABCDEF".toList[d]?.map Char.toUpper = "0123456789ABCDEF".toList[d]? := by decide
  obtain ⟨small, listed⟩ := h
  obtain ⟨lower, upper⟩ := table d small
  refine ⟨small, .inr ?_⟩
  rcases listed with listed | listed
  · rw [← lower, listed, Option.map_some]
  · rw [← upper, listed, Option.map_some]

end Form

/-! ### Printing -/

/-- The address in a form, with all digits of a group and lower-case letters. -/
def spell (f : Form) (a : Address) : String :=
  String.ofList ([f.separator].intercalate ((a.octets.toChunks f.width).map (·.flatMap hexPair)))

theorem toChunks_octets (f : Form) (a : Address) :
    (a.octets.toChunks f.width).length = f.size ∧ (a.octets.toChunks f.width).flatten = a.octets ∧
      ∀ piece ∈ a.octets.toChunks f.width, piece.length = f.width := by
  rcases a with ⟨octets, six⟩
  match octets, six with
  | [o₀, o₁, o₂, o₃, o₄, o₅], _ =>
    cases f with
    | colons | hyphens | dots => exact ⟨rfl, rfl, by simp [List.toChunks, List.toChunks.go, Form.width]⟩

theorem spell_writes (f : Form) (a : Address) : f.Writes (a.spell f).toList a := by
  obtain ⟨size, whole, each⟩ := toChunks_octets f a
  refine ⟨_, _, (List.length_map _).trans size, String.toList_ofList, ?_, whole⟩
  refine List.forall₂_map_left_iff.mpr (List.forall₂_same.mpr fun piece listed => ?_)
  have full : piece ≠ [] := by
    rintro rfl
    have none := each [] listed
    cases f with
    | colons | hyphens | dots => cases none
  rw [← each piece listed]
  exact isGroup_flatMap piece full

/-- Six pairs of lower-case digits between colons. -/
def IsCanonical (text : String) : Prop :=
  ∃ pairs : List (List Char), pairs.length = 6 ∧ text.toList = [':'].intercalate pairs ∧
    ∀ pair ∈ pairs, pair.length = 2 ∧ ∀ c ∈ pair, c ∈ "0123456789abcdef".toList

theorem render_isCanonical (a : Address) : IsCanonical a.render := by
  refine ⟨a.octets.map hexPair, (List.length_map _).trans a.length_eq, a.toList_render, fun pair listed => ?_⟩
  obtain ⟨octet, -, rfl⟩ := List.mem_map.mp listed
  refine ⟨rfl, fun c inside => ?_⟩
  obtain ⟨n, small, rfl⟩ := hexPair_digits inside
  exact (by decide : ∀ n < 16, Text.hexDigit n ∈ "0123456789abcdef".toList) n small

theorem exists_hexPair {pair : List Char} (two : pair.length = 2)
    (each : ∀ c ∈ pair, c ∈ "0123456789abcdef".toList) : ∃ octet, hexPair octet = pair := by
  have table : ∀ c ∈ "0123456789abcdef".toList, ∃ n < 16, Text.hexDigit n = c :=
    List.all_iff_forall_prop.mp (by decide)
  match pair, two with
  | [c, c'], _ =>
    obtain ⟨high, high_small, rfl⟩ := table c (each c List.mem_cons_self)
    obtain ⟨low, low_small, rfl⟩ := table c' (each c' (List.mem_cons_of_mem _ List.mem_cons_self))
    refine ⟨UInt8.ofNat (16 * high + low), ?_⟩
    have octet : (UInt8.ofNat (16 * high + low)).toNat = 16 * high + low := by
      rw [UInt8.toNat_ofNat']
      omega
    rw [hexPair, octet, show (16 * high + low) / 16 = high by omega, show (16 * high + low) % 16 = low by omega]

/-- A canonical text is what is printed of some address. -/
theorem IsCanonical.exists_render {text : String} (h : IsCanonical text) : ∃ a : Address, a.render = text := by
  obtain ⟨pairs, size, chars, each⟩ := h
  obtain ⟨octets, rfl⟩ : pairs ∈ Set.range (List.map hexPair) := by
    rw [Set.range_list_map]
    exact fun pair listed => exists_hexPair (each pair listed).1 (each pair listed).2
  refine ⟨⟨octets, (List.length_map _).symm.trans size⟩, ?_⟩
  exact String.toList_inj.mp ((toList_render _).trans chars.symm)

/-- What is read as an address, and what is printed of it. -/
structure ReadsForms : Prop where
  trimmed : ∀ text : List Char, Text.IsTrimmed (Text.trim text) ∧
    ∃ before after, text = before ++ (Text.trim text ++ after) ∧ Text.AllBlank before ∧ Text.AllBlank after
  accepted : ∀ (s : String) (a : Address), parse s = .ok a ↔ ∃ f : Form, f.Writes (Text.trim s.toList) a
  refused : ∀ (s : String) (e : FormatError), parse s = .error e ↔
    (∀ (f : Form) (a : Address), ¬f.Writes (Text.trim s.toList) a) ∧
      e = .address (String.ofList (Text.trim s.toList))
  /-- Every form, in either case, is read back. -/
  spelled : ∀ (a : Address) (f : Form), parse (a.spell f) = .ok a ∧ parse (a.spell f).toUpper = .ok a
  printed : ∀ a : Address, toString a = a.spell .colons
  /-- Of whatever was read, the one canonical text is printed that is read alike. -/
  canonical : ∀ (s : String) (a : Address), parse s = .ok a →
    ∀ text, text = toString a ↔ IsCanonical text ∧ parse text = parse s

theorem reads_forms : ReadsForms where
  trimmed text := ⟨Text.trim_isTrimmed text, Text.trim_parts text⟩
  accepted _ _ := parse_eq_ok_iff
  refused _ _ := parse_eq_error_iff
  spelled a f := by
    have written := spell_writes f a
    have upper : f.Writes (a.spell f).toUpper.toList a := by
      rw [String.toUpper, String.toList_map]
      refine written.map (fun _ _ => Form.isDigit_toUpper) ?_
      cases f with
      | colons | hyphens | dots => rfl
    exact ⟨written.parse, upper.parse⟩
  printed a := by
    rcases a with ⟨octets, six⟩
    match octets, six with
    | [o₀, o₁, o₂, o₃, o₄, o₅], _ => rfl
  canonical s a h text := by
    rw [h]
    constructor
    · rintro rfl
      exact ⟨render_isCanonical a, parse_render a⟩
    · rintro ⟨canonical, read⟩
      obtain ⟨a', rfl⟩ := canonical.exists_render
      rw [parse_render] at read
      obtain rfl := Except.ok.inj read
      rfl

end Address

end MacAgent
