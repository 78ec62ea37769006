import Mathlib.Data.List.DropRight
import MacAgent.Text.Blank

/-! # Words in a text

A text may hold its words with any blanks between them and around them. Trimming takes off what is
around, and cutting takes off the first word; what is left holds the other words, with blanks as before. -/

namespace MacAgent.Text

variable {gap rest text w : List Char} {ws : List (List Char)} {sep : Char → Bool}

def AllBlank (gap : List Char) : Prop := ∀ c ∈ gap, isBlank c = true

def NoBlank (w : List Char) : Prop := ∀ c ∈ w, isBlank c = false

instance (w : List Char) : Decidable (NoBlank w) := List.decidableBAll _ w

theorem AllBlank.nil : AllBlank [] := fun _ h => absurd h List.not_mem_nil

/-! ### Trimming -/

theorem trimEnd_append (text : List Char) : ∃ gap, AllBlank gap ∧ trimEnd text ++ gap = text :=
  ⟨text.rtakeWhile isBlank, fun _ => List.mem_rtakeWhile_imp, List.rdropWhile_append_rtakeWhile⟩

theorem trimEnd_gap (h : AllBlank gap) (text : List Char) : trimEnd (text ++ gap) = trimEnd text := by
  have flipped : AllBlank gap.reverse := fun c member => h c (List.mem_reverse.mp member)
  unfold trimEnd
  rw [List.reverse_append, List.dropWhile_append_of_pos flipped]

theorem trim_gap_left (h : AllBlank gap) (text : List Char) : trim (gap ++ text) = trim text :=
  congrArg trimEnd (List.dropWhile_append_of_pos h)

theorem trim_gap_right (h : AllBlank gap) (text : List Char) : trim (text ++ gap) = trim text := by
  unfold trim trimStart
  rw [List.dropWhile_append]
  split
  · rename_i blank
    have vanishes : gap.dropWhile isBlank = [] := List.dropWhile_eq_nil_iff.mpr h
    rw [List.isEmpty_iff.mp blank, vanishes]
  · exact trimEnd_gap h _

theorem trim_trimEnd (text : List Char) : trim (trimEnd text) = trim text := by
  obtain ⟨gap, blank, whole⟩ := trimEnd_append text
  rw [← trim_gap_right blank, whole]

theorem trim_trim (text : List Char) : trim (trim text) = trim text := by
  have started : trimStart (trimStart text) = trimStart text := List.dropWhile_idempotent isBlank text
  calc trim (trim text) = trim (trimStart text) := trim_trimEnd _
    _ = trimEnd (trimStart text) := congrArg trimEnd started

/-- Only what follows a word is trimmed. -/
theorem trim_word (h : NoBlank w) (full : w ≠ []) (rest : List Char) : trim (w ++ rest) = w ++ trimEnd rest := by
  have stays (w rest : List Char) (h : NoBlank w) (full : w ≠ []) : (w ++ rest).dropWhile isBlank = w ++ rest := by
    cases w with
    | nil => exact absurd rfl full
    | cons c w => exact List.dropWhile_cons_of_neg (by simp [h c List.mem_cons_self])
  have flipped : NoBlank w.reverse := fun c member => h c (List.mem_reverse.mp member)
  have last := stays w.reverse [] flipped (List.reverse_ne_nil_iff.mpr full)
  unfold trim trimStart
  rw [stays w rest h full]
  unfold trimEnd
  rw [List.reverse_append, List.dropWhile_append]
  split
  · rename_i blank
    rw [List.append_nil] at last
    rw [List.isEmpty_iff.mp blank, last, List.reverse_reverse, List.reverse_nil, List.append_nil]
  · rw [List.reverse_append, List.reverse_reverse]

theorem trim_of_noBlank (h : NoBlank w) : trim w = w := by
  cases w with
  | nil => rfl
  | cons c w =>
    have trimmed := trim_word h (List.cons_ne_nil c w) []
    rwa [List.append_nil, show trimEnd [] = [] from rfl, List.append_nil] at trimmed

/-- A text that neither starts nor ends with a blank. -/
structure IsTrimmed (text : List Char) : Prop where
  first : ∀ c, text.head? = some c → isBlank c = false
  last : ∀ c, text.getLast? = some c → isBlank c = false

theorem head?_dropWhile_isBlank (text : List Char) {c : Char} (h : (text.dropWhile isBlank).head? = some c) :
    isBlank c = false := by
  have stops := List.head?_dropWhile_not isBlank text
  rw [h] at stops
  exact stops

theorem trim_isTrimmed (text : List Char) : IsTrimmed (trim text) where
  first c h := by
    obtain ⟨gap, -, whole⟩ := trimEnd_append (trimStart text)
    refine head?_dropWhile_isBlank text ?_
    show (trimStart text).head? = some c
    rw [← whole, List.head?_append, show (trimEnd (trimStart text)).head? = some c from h, Option.some_or]
  last c h := by
    refine head?_dropWhile_isBlank (trimStart text).reverse ?_
    rwa [trim, trimEnd, List.getLast?_reverse] at h

/-- Trimming takes off the blanks at both ends, and nothing else. -/
theorem trim_parts (text : List Char) :
    ∃ before after, text = before ++ (trim text ++ after) ∧ AllBlank before ∧ AllBlank after := by
  obtain ⟨after, blank, whole⟩ := trimEnd_append (trimStart text)
  refine ⟨text.takeWhile isBlank, after, ?_, fun _ => List.mem_takeWhile_imp, blank⟩
  show text = text.takeWhile isBlank ++ (trimEnd (trimStart text) ++ after)
  rw [whole]
  exact List.takeWhile_append_dropWhile.symm

/-! ### Cutting -/

/-- The text does not go on with a word. -/
def Breaks (rest : List Char) : Prop := ∀ c, rest.head? = some c → isBlank c = true

theorem breaks_gap (h : AllBlank gap) (full : gap ≠ []) (rest : List Char) : Breaks (gap ++ rest) := by
  intro c first
  cases gap with
  | nil => exact absurd rfl full
  | cons b gap =>
    obtain rfl := Option.some.inj first
    exact h b List.mem_cons_self

theorem AllBlank.breaks (h : AllBlank gap) : Breaks gap := fun c first => h c (List.mem_of_head? first)

theorem Breaks.trimEnd (h : Breaks rest) : Breaks (trimEnd rest) := by
  obtain ⟨gap, -, whole⟩ := trimEnd_append rest
  intro c first
  refine h c ?_
  rw [← whole, List.head?_append, first, Option.some_or]

theorem Breaks.trim_drop (h : Breaks rest) : trim (rest.drop 1) = trim rest := by
  cases rest with
  | nil => rfl
  | cons c rest =>
    have blank : AllBlank [c] := fun b member => (List.mem_singleton.mp member) ▸ h c rfl
    exact (trim_gap_left blank rest).symm

theorem cut_word (h : NoBlank w) (breaks : Breaks rest) : cut (w ++ rest) = (w, rest.drop 1) := by
  have inside : ∀ c ∈ w, (!isBlank c) = true := fun c member => by rw [h c member]; rfl
  unfold cut
  rw [List.takeWhile_append_of_pos inside, List.dropWhile_append_of_pos inside]
  cases rest with
  | nil => simp
  | cons c rest => simp [breaks c rfl]

/-- Of a text that starts with a word, cutting gives the word, and all that follows but blanks. -/
theorem cut_trim (h : NoBlank w) (full : w ≠ []) (breaks : Breaks rest) :
    ∃ left, cut (trim (w ++ rest)) = (w, left) ∧ trim left = trim rest := by
  refine ⟨(trimEnd rest).drop 1, ?_, ?_⟩
  · rw [trim_word h full, cut_word h breaks.trimEnd]
  · rw [breaks.trimEnd.trim_drop, trim_trimEnd]

theorem cut_noBlank (text : List Char) : NoBlank (cut text).1 := fun c member => by
  simpa using List.mem_takeWhile_imp member

/-! ### Splitting -/

theorem splitAtEach_eq (sep : Char → Bool) (text : List Char) : splitAtEach sep text = text.splitOnP sep := by
  induction text with
  | nil => rw [splitAtEach, List.splitOnP_nil]
  | cons c text ih =>
    rw [splitAtEach, List.splitOnP_cons_eq_if_modifyHead, ih]
    split
    · rfl
    · split
      · rename_i split
        rw [split, List.modifyHead_cons]
      · rename_i none
        exact absurd none (List.splitOnP_ne_nil sep text)

theorem splitAtEach_ne_nil (sep : Char → Bool) (text : List Char) : splitAtEach sep text ≠ [] := by
  rw [splitAtEach_eq]
  exact List.splitOnP_ne_nil sep text

/-- Parts joined by a separator that none of them holds are found again. -/
theorem splitAtEach_intercalate {c : Char} {parts : List (List Char)} (free : ∀ part ∈ parts, c ∉ part)
    (some : parts ≠ []) : splitAtEach (· == c) ([c].intercalate parts) = parts := by
  rw [splitAtEach_eq, ← List.splitOn_eq_splitOnP, List.splitOn_intercalate c free some]

theorem intercalate_splitAtEach (c : Char) (text : List Char) : [c].intercalate (splitAtEach (· == c) text) = text := by
  rw [splitAtEach_eq, ← List.splitOn_eq_splitOnP, List.intercalate_splitOn]

theorem map_intercalate (g : Char → Char) (joint : List Char) (parts : List (List Char)) :
    (joint.intercalate parts).map g = (joint.map g).intercalate (parts.map (List.map g)) := by
  induction parts with
  | nil => rfl
  | cons part parts ih =>
    cases parts with
    | nil => simp
    | cons next parts =>
      rw [List.map_cons] at ih
      rw [List.map_cons, List.map_cons, List.intercalate_cons_cons, List.intercalate_cons_cons, List.map_append,
        List.map_append, ih]

theorem mem_intercalate {c : Char} {joint : List Char} {parts : List (List Char)} (h : c ∈ joint.intercalate parts) :
    c ∈ joint ∨ ∃ part ∈ parts, c ∈ part := by
  induction parts with
  | nil => cases h
  | cons part parts ih =>
    cases parts with
    | nil =>
      rw [List.intercalate_singleton] at h
      exact .inr ⟨part, List.mem_cons_self, h⟩
    | cons next parts =>
      rw [List.intercalate_cons_cons, List.mem_append, List.mem_append] at h
      rcases h with (first | between) | later
      · exact .inr ⟨part, List.mem_cons_self, first⟩
      · exact .inl between
      · exact (ih later).imp_right fun ⟨part, listed, inside⟩ => ⟨part, List.mem_cons_of_mem _ listed, inside⟩

/-! ### Words -/

theorem words_blank {c : Char} (blank : isBlank c = true) (s t : List Char) :
    words (s ++ c :: t) = words s ++ words t := by
  unfold words
  rw [splitAtEach_eq, splitAtEach_eq, splitAtEach_eq, List.splitOnP_append_cons s t blank, List.filter_append]

theorem words_gap_left (h : AllBlank gap) (text : List Char) : words (gap ++ text) = words text := by
  induction gap with
  | nil => rfl
  | cons c gap ih =>
    have skipped : words (c :: (gap ++ text)) = words [] ++ words (gap ++ text) :=
      words_blank (h c List.mem_cons_self) [] _
    rw [List.cons_append, skipped, ih fun c member => h c (List.mem_cons_of_mem _ member)]
    rfl

theorem words_of_allBlank (h : AllBlank gap) : words gap = [] := by
  have none := words_gap_left h []
  rwa [List.append_nil] at none

theorem words_gap_right (h : AllBlank gap) (text : List Char) : words (text ++ gap) = words text := by
  cases gap with
  | nil => rw [List.append_nil]
  | cons c gap =>
    rw [words_blank (h c List.mem_cons_self),
      words_of_allBlank fun c member => h c (List.mem_cons_of_mem _ member), List.append_nil]

theorem words_trim (text : List Char) : words (trim text) = words text := by
  obtain ⟨gap, blank, whole⟩ := trimEnd_append (trimStart text)
  have before : AllBlank (text.takeWhile isBlank) := fun _ => List.mem_takeWhile_imp
  calc words (trim text) = words (trimStart text) := by rw [← words_gap_right blank, ← whole]; rfl
    _ = words (text.takeWhile isBlank ++ trimStart text) := (words_gap_left before _).symm
    _ = words text := congrArg words List.takeWhile_append_dropWhile

theorem words_word (h : NoBlank w) (full : w ≠ []) (breaks : Breaks rest) : words (w ++ rest) = w :: words rest := by
  have alone : words w = [w] := by
    unfold words
    rw [splitAtEach_eq, List.splitOnP_eq_singleton h]
    exact List.filter_cons_of_pos (by simpa using full)
  cases rest with
  | nil => rw [List.append_nil, alone, words_of_allBlank .nil]
  | cons c rest =>
    have blank : isBlank c = true := breaks c rfl
    have skipped : words (c :: rest) = words [] ++ words rest := words_blank blank [] rest
    rw [words_blank blank, alone, skipped]
    rfl

/-! ### Texts that hold given words -/

/-- Each of the words comes after some blanks, and there are maybe blanks at the end. -/
inductive Follows : List (List Char) → List Char → Prop where
  | done {gap : List Char} (blank : AllBlank gap) : Follows [] gap
  | word {gap rest : List Char} {ws : List (List Char)} (blank : AllBlank gap) (apart : gap ≠ []) (w : List Char)
      (later : Follows ws rest) : Follows (w :: ws) (gap ++ (w ++ rest))

/-- The text holds the words in this order, with blanks between them and maybe around them. -/
inductive Spaced : List (List Char) → List Char → Prop where
  | intro {gap rest : List Char} {ws : List (List Char)} (blank : AllBlank gap) (w : List Char)
      (later : Follows ws rest) : Spaced (w :: ws) (gap ++ (w ++ rest))

theorem Follows.breaks (h : Follows ws rest) : Breaks rest := by
  cases h with
  | done blank => exact blank.breaks
  | word blank apart w later => exact breaks_gap blank apart _

theorem Follows.words_eq (h : Follows ws rest) (each : ∀ w ∈ ws, NoBlank w ∧ w ≠ []) : words rest = ws := by
  induction h with
  | done blank => exact words_of_allBlank blank
  | word blank apart w later ih =>
    rw [List.forall_mem_cons] at each
    rw [words_gap_left blank, words_word each.1.1 each.1.2 later.breaks, ih each.2]

theorem follows_intercalate (w : List Char) (ws : List (List Char)) :
    ∃ rest, Follows ws rest ∧ [' '].intercalate (w :: ws) = w ++ rest := by
  induction ws generalizing w with
  | nil => exact ⟨[], .done .nil, by simp⟩
  | cons w' ws ih =>
    obtain ⟨rest, later, joined⟩ := ih w'
    have blank : AllBlank [' '] := fun c member => (List.mem_singleton.mp member) ▸ rfl
    refine ⟨_, .word blank (List.cons_ne_nil _ _) w' later, ?_⟩
    rw [List.intercalate_cons_cons, joined, List.append_assoc]

/-- Words joined by one blank are spaced. -/
theorem spaced_intercalate (w : List Char) (ws : List (List Char)) :
    Spaced (w :: ws) ([' '].intercalate (w :: ws)) := by
  obtain ⟨rest, later, joined⟩ := follows_intercalate w ws
  rw [joined]
  exact .intro .nil w later

end MacAgent.Text
