import Mathlib.Data.Bool.AllAny
import Mathlib.Data.List.Forall2
import Mathlib.Data.List.Induction
import Mathlib.Data.Nat.Digits.Defs

/-! # Numerals

A numeral is a text of ASCII digits to a base, the highest first. It may start with zeros, and the letters
among its digits may have either case. Nothing here depends on how numerals are read. -/

namespace MacAgent.Text

variable {base n : Nat} {c : Char} {d d' : Nat} {digits : List Nat} {text : List Char}

theorem exists_of_forall₂ {α β : Type} {R : α → β → Prop} {l : List α} {l' : List β} (h : List.Forall₂ R l l')
    {a : α} (member : a ∈ l) : ∃ b ∈ l', R a b := by
  obtain ⟨i, inside, rfl⟩ := List.mem_iff_getElem.mp member
  exact ⟨_, List.getElem_mem (h.length_eq ▸ inside), h.get inside (h.length_eq ▸ inside)⟩

/-! ### Numbers from their digits -/

/-- The number with these digits to the base, the highest first. -/
def numberOf (base : Nat) (digits : List Nat) : Nat := Nat.ofDigits base digits.reverse

theorem numberOf_concat : numberOf base (digits ++ [d]) = base * numberOf base digits + d := by
  unfold numberOf
  rw [List.reverse_append, List.reverse_singleton, List.singleton_append, Nat.ofDigits_cons, Nat.add_comm]

theorem numberOf_lt (large : 1 < base) (each : ∀ d ∈ digits, d < base) :
    numberOf base digits < base ^ digits.length := by
  have bound := Nat.ofDigits_lt_base_pow_length (l := digits.reverse) large fun d member =>
    each d (List.mem_reverse.mp member)
  rwa [List.length_reverse] at bound

/-- Reading digit by digit gives the number. -/
theorem foldl_digits (digits : List Nat) : digits.foldl (fun n d => base * n + d) 0 = numberOf base digits := by
  induction digits using List.reverseRecOn with
  | nil => rfl
  | append_singleton digits d ih => rw [List.foldl_concat, ih, numberOf_concat]

/-! ### Digits -/

/-- The character is the digit of value `d`; a letter may have either case. -/
def IsDigit (base : Nat) (c : Char) (d : Nat) : Prop :=
  d < base ∧ ("0123456789abcdef".toList[d]? = some c ∨ "0123456789ABCDEF".toList[d]? = some c)

instance : Decidable (IsDigit base c d) := inferInstanceAs (Decidable (_ ∧ _))

theorem IsDigit.lt (h : IsDigit base c d) : d < base := h.1

/-- Characters one after another are digits of values one after another, if the table says so. -/
theorem isDigit_of_between (first value count : Nat)
    (table : ∀ i < count, IsDigit base (Char.ofNat (first + i)) (i + value)) (low : first ≤ c.toNat)
    (high : c.toNat < first + count) : IsDigit base c (c.toNat - first + value) := by
  have listed := table (c.toNat - first) (by omega)
  rwa [Nat.add_sub_cancel' low, Char.ofNat_toNat] at listed

/-- The text writes the number to the base, with at least one digit. -/
def IsNumeral (base : Nat) (text : List Char) (n : Nat) : Prop :=
  text ≠ [] ∧ ∃ digits, List.Forall₂ (IsDigit base) text digits ∧ numberOf base digits = n

/-- The number of digits bounds the number. -/
theorem IsNumeral.lt (large : 1 < base) (h : IsNumeral base text n) : n < base ^ text.length := by
  obtain ⟨-, digits, each, rfl⟩ := h
  rw [each.length_eq]
  refine numberOf_lt large fun d member => ?_
  obtain ⟨c, -, digit⟩ := exists_of_forall₂ each.flip member
  exact IsDigit.lt digit

/-- A change of the characters that leaves digits as they are leaves numerals as they are. -/
theorem IsNumeral.map {g : Char → Char} (keeps : ∀ c d, IsDigit base c d → IsDigit base (g c) d)
    (h : IsNumeral base text n) : IsNumeral base (text.map g) n := by
  obtain ⟨some, digits, each, number⟩ := h
  refine ⟨mt List.map_eq_nil_iff.mp some, digits, ?_, number⟩
  exact List.forall₂_map_left_iff.mpr (each.imp keeps)

theorem IsNumeral.isDigit (h : IsNumeral base text n) (inside : c ∈ text) : ∃ d, IsDigit base c d := by
  obtain ⟨-, digits, each, -⟩ := h
  obtain ⟨d, -, digit⟩ := exists_of_forall₂ each inside
  exact ⟨d, digit⟩

end MacAgent.Text
