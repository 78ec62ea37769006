import Mathlib.Data.String.Basic

/-! # The order of texts by their bytes

Texts are compared code point by code point. That is also the order of their UTF-8 forms, compared byte by
byte: the first byte of a character says how many bytes it has, and more for a higher code point; the bytes
after it are the digits of the code point, the highest first. -/

namespace MacAgent.Text
open String (utf8EncodeChar)

/-! ### One character -/

/-- The `k` lowest digits of a number to the base 64, as the bytes that continue a character. -/
def continuation : Nat → Nat → List UInt8
  | 0, _ => []
  | k + 1, n => continuation k (n / 64) ++ [UInt8.ofNat (n % 64 + 128)]

theorem byte_lt {m n : Nat} (h : m < n) (byte : n < 256) : UInt8.ofNat m < UInt8.ofNat n := by
  rw [UInt8.lt_iff_toNat_lt, UInt8.toNat_ofNat', UInt8.toNat_ofNat']
  omega

theorem continuation_lt {k m n : Nat} (h : m < n) (same : m / 64 ^ k = n / 64 ^ k) (s t : List UInt8) :
    continuation k m ++ s < continuation k n ++ t := by
  induction k generalizing m n s t with
  | zero => omega
  | succ k ih =>
    rw [continuation, continuation, List.append_assoc, List.append_assoc]
    rcases Nat.lt_or_ge (m / 64) (n / 64) with high | low
    · refine ih high ?_ _ _
      rw [Nat.div_div_eq_div_mul, Nat.div_div_eq_div_mul, Nat.mul_comm, ← Nat.pow_succ]
      exact same
    · have high : m / 64 = n / 64 := by omega
      rw [high]
      refine List.append_left_lt (List.cons_lt_cons_iff.mpr (.inl (byte_lt ?_ ?_)))
      · omega
      · omega

/-- The first byte of the character with code point `n`, and how many bytes follow it. -/
inductive Leads (n : Nat) : Nat → Nat → Prop where
  | one (small : n < 0x80) : Leads n n 0
  | two (large : 0x80 ≤ n) (small : n < 0x800) : Leads n (n / 64 + 192) 1
  | three (large : 0x800 ≤ n) (small : n < 0x10000) : Leads n (n / 4096 + 224) 2
  | four (large : 0x10000 ≤ n) (small : n < 0x110000) : Leads n (n / 262144 + 240) 3

theorem utf8EncodeChar_eq (c : Char) :
    ∃ lead k, utf8EncodeChar c = UInt8.ofNat lead :: continuation k c.toNat ∧ Leads c.toNat lead k := by
  have valid : c.val.toNat < 0x110000 := by
    rcases c.valid with low | ⟨-, high⟩
    · exact Nat.lt_trans low (by decide)
    · exact high
  unfold utf8EncodeChar Char.toNat
  generalize c.val.toNat = n at valid
  dsimp only
  split
  · exact ⟨_, 0, rfl, .one (by omega)⟩
  · split
    · rw [Nat.mod_eq_of_lt (by omega : n / 64 < 32)]
      exact ⟨_, 1, rfl, .two (by omega) (by omega)⟩
    · split
      · rw [Nat.mod_eq_of_lt (by omega : n / 4096 < 16)]
        exact ⟨_, 2, rfl, .three (by omega) (by omega)⟩
      · rw [Nat.mod_eq_of_lt (by omega : n / 262144 < 8)]
        refine ⟨_, 3, ?_, .four (by omega) valid⟩
        simp only [continuation, Nat.div_div_eq_div_mul, List.nil_append, List.cons_append]

/-- Of two characters, the first bytes tell the sizes apart; within one size they are the highest digits. -/
theorem Leads.lt_or_same {m n lead lead' k k' : Nat} (h : Leads m lead k) (h' : Leads n lead' k')
    (below : m < n) : lead < lead' ∧ lead' < 256 ∨ lead = lead' ∧ k = k' ∧ m / 64 ^ k = n / 64 ^ k := by
  cases h <;> cases h' <;> omega

theorem utf8EncodeChar_lt {c d : Char} (h : c < d) (s t : List UInt8) :
    utf8EncodeChar c ++ s < utf8EncodeChar d ++ t := by
  obtain ⟨lead, k, bytes, leads⟩ := utf8EncodeChar_eq c
  obtain ⟨lead', k', bytes', leads'⟩ := utf8EncodeChar_eq d
  rw [bytes, bytes', List.cons_append, List.cons_append, List.cons_lt_cons_iff]
  rcases leads.lt_or_same leads' h with ⟨first, byte⟩ | ⟨rfl, rfl, same⟩
  · exact .inl (byte_lt first byte)
  · exact .inr ⟨rfl, continuation_lt h same s t⟩

/-! ### Texts -/

/-- The UTF-8 form of a text. -/
def bytes (s : String) : List UInt8 := s.toUTF8.data.toList

theorem bytes_eq (s : String) : bytes s = s.toList.flatMap utf8EncodeChar := by
  unfold bytes
  rw [String.toUTF8_eq_toByteArray, ← String.utf8Encode_toList, List.utf8Encode, List.data_toByteArray]

theorem flatMap_utf8EncodeChar_lt {s t : List Char} (h : s < t) :
    s.flatMap utf8EncodeChar < t.flatMap utf8EncodeChar := by
  induction s generalizing t with
  | nil =>
    cases t with
    | nil => exact absurd h (List.not_lt_nil _)
    | cons d t =>
      rw [List.flatMap_nil, List.flatMap_cons]
      cases encoded : utf8EncodeChar d with
      | nil => exact absurd encoded String.utf8EncodeChar_ne_nil
      | cons byte rest => exact List.nil_lt_cons _ _
  | cons c s ih =>
    cases t with
    | nil => exact absurd h (List.not_lt_nil _)
    | cons d t =>
      rcases List.cons_lt_cons_iff.mp h with first | ⟨rfl, rest⟩
      · exact utf8EncodeChar_lt first _ _
      · exact List.append_left_lt (ih rest)

/-- Texts are ordered as their UTF-8 forms are. -/
theorem lt_iff_bytes_lt {s t : String} : s < t ↔ bytes s < bytes t := by
  rw [String.lt_iff, bytes_eq, bytes_eq]
  refine ⟨flatMap_utf8EncodeChar_lt, fun h => ?_⟩
  rcases lt_trichotomy s.toList t.toList with below | same | above
  · exact below
  · rw [same] at h
    exact absurd h (List.lt_irrefl _)
  · exact absurd h (List.lt_asymm (flatMap_utf8EncodeChar_lt above))

end MacAgent.Text
