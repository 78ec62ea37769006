import Mathlib.Data.List.GetD
import Mathlib.Data.List.ReduceOption
import Mathlib.Data.List.TakeWhile
import MacAgent.Cursor.Walk
import MacAgent.Proofs.Cursor.Invariant

/-! # Reading in place is reading directly

A walk makes one poll for each call up to the first end of its cursor, and none after it. So its calls
give what a reader who polls the cursor directly finds before the first end, in order, and then none for
ever, whatever further polls would do. A cursor over a copied list has its first end at the first item
that is one, or after the last item.

The items may be of any type. So this covers also a test for the end that goes by earlier items: each
item then carries the verdict on it. -/

namespace MacAgent

namespace Cursor

variable {α : Type} {cursor : Cursor α} {isEnd : α → Bool} {n : Nat}

/-- The first `n` polls of the cursor give items, none of which marks the end. -/
def GoesOn (cursor : Cursor α) (isEnd : α → Bool) (n : Nat) : Prop :=
  ∀ i < n, ∃ item, cursor i = .ok item ∧ isEnd item = false

theorem GoesOn.exists_items (h : cursor.GoesOn isEnd n) :
    ∃ items, items.length = n ∧ cursor.Gives isEnd items := by
  induction n with
  | zero => exact ⟨[], rfl, gives_nil⟩
  | succ n ih =>
    obtain ⟨items, rfl, given⟩ := ih fun i hi => h i (Nat.lt_succ_of_lt hi)
    obtain ⟨item, poll, more⟩ := h items.length (Nat.lt_succ_self _)
    exact ⟨items ++ [item], List.length_append, given.concat poll more⟩

end Cursor

namespace Walk

variable {α : Type} {cursor : Cursor α} {isEnd : α → Bool} {items : List α} {item : α} {w : Walk α}

/-! ### One call -/

theorem next_exhausted (seen : w.exhausted = true) : w.next = .ok (none, w) := by
  simp only [next, seen, if_true]

theorem next_item (unseen : w.exhausted = false) (poll : w.cursor w.polls = .ok item)
    (more : w.isEnd item = false) : w.next = .ok (some item, { w with polls := w.polls + 1 }) := by
  simp only [next, unseen, poll, more, Bool.false_eq_true, if_false]

theorem next_end (unseen : w.exhausted = false) (poll : w.cursor w.polls = .ok item)
    (last : w.isEnd item = true) :
    w.next = .ok (none, { w with polls := w.polls + 1, exhausted := true }) := by
  simp only [next, unseen, poll, last, Bool.false_eq_true, if_false, if_true]

theorem next_crash {message : String} (unseen : w.exhausted = false)
    (poll : w.cursor w.polls = .error message) : w.next = .error message := by
  simp only [next, unseen, poll, Bool.false_eq_true, if_false]

/-- A walk that says that there is no item has seen the end. -/
theorem exhausted_of_next {w' : Walk α} (h : w.next = .ok (none, w')) : w'.exhausted = true := by
  cases seen : w.exhausted with
  | true =>
    rw [next_exhausted seen] at h
    cases h
    exact seen
  | false =>
    cases poll : w.cursor w.polls with
    | error message =>
      rw [next_crash seen poll] at h
      cases h
    | ok item =>
      cases last : w.isEnd item with
      | true =>
        rw [next_end seen poll last] at h
        cases h
        rfl
      | false =>
        rw [next_item seen poll last] at h
        cases h

/-! ### Calls one after another -/

/-- What so many calls give, and the walk that they leave. -/
def calls (w : Walk α) : Nat → Except String (List (Option α) × Walk α)
  | 0 => .ok ([], w)
  | k + 1 => do
    let (reply, w) ← w.next
    let (replies, w) ← w.calls k
    return (reply :: replies, w)

theorem calls_of_next {w' : Walk α} {reply : Option α} (h : w.next = .ok (reply, w')) (k : Nat) :
    w.calls (k + 1) = (w'.calls k).map fun step => (reply :: step.1, step.2) := by
  rw [calls, h]
  exact bind_pure_comp (fun step => (reply :: step.1, step.2)) (w'.calls k)

/-- The last of the calls is one of the walk that the others leave. -/
theorem calls_succ (w : Walk α) (k : Nat) : w.calls (k + 1) =
    (w.calls k).bind fun before => before.2.next.map fun last => (before.1 ++ [last.1], last.2) := by
  induction k generalizing w with
  | zero =>
    rw [calls]
    cases w.next with
    | error message => rfl
    | ok step => rfl
  | succ k ih =>
    cases next : w.next with
    | error message =>
      rw [calls, calls, next]
      rfl
    | ok step =>
      rw [calls_of_next next, calls_of_next next, ih]
      cases step.2.calls k with
      | error message => rfl
      | ok before =>
        show Except.map _ (before.2.next.map _) = before.2.next.map _
        cases before.2.next with
        | error message => rfl
        | ok last => rfl

theorem calls_concat {w' : Walk α} {k : Nat} {replies : List (Option α)}
    (before : w.calls k = .ok (replies, w')) :
    w.calls (k + 1) = w'.next.map fun last => (replies ++ [last.1], last.2) := by
  rw [calls_succ, before]
  rfl

theorem calls_exhausted (seen : w.exhausted = true) (k : Nat) :
    w.calls k = .ok (List.replicate k none, w) := by
  induction k with
  | zero => rfl
  | succ k ih =>
    rw [calls_of_next (next_exhausted seen), ih]
    rfl

theorem take_of_item {w' : Walk α} (h : w.next = .ok (some item, w')) (k : Nat) :
    w.take (k + 1) = (w'.take k).map fun step => (item :: step.1, step.2) := by
  rw [take, h]
  exact bind_pure_comp (fun step => (item :: step.1, step.2)) (w'.take k)

/-- Taking items until there is none is making the calls and leaving out the replies without one. -/
theorem take_eq_calls (w : Walk α) (k : Nat) :
    w.take k = (w.calls k).map fun step => (step.1.reduceOption, step.2) := by
  induction k generalizing w with
  | zero => rfl
  | succ k ih =>
    cases next : w.next with
    | error message =>
      rw [take, calls, next]
      rfl
    | ok step =>
      obtain ⟨reply, w'⟩ := step
      rw [calls_of_next next]
      cases reply with
      | none =>
        -- The other calls change nothing and give no item.
        have rest : w'.calls k = .ok (List.replicate k none, w') :=
          calls_exhausted (exhausted_of_next next) k
        have none_taken : w.take (k + 1) = .ok ([], w') := by
          rw [take, next]
          rfl
        have none_left : (none :: List.replicate k none : List (Option α)).reduceOption = [] := by
          rw [List.reduceOption_cons_of_none, List.reduceOption_replicate_none]
        rw [rest, none_taken, ← none_left]
        rfl
      | some item =>
        have kept : ∀ rest : List (Option α) × Walk α,
            (item :: rest.1.reduceOption, rest.2) = ((some item :: rest.1).reduceOption, rest.2) :=
          fun rest => by rw [List.reduceOption_cons_of_some]
        rw [take_of_item next, ih]
        cases w'.calls k with
        | error message => rfl
        | ok rest => exact congrArg Except.ok (kept rest)

/-! ### A walk from the start -/

theorem reduceOption_range (items : List α) (k : Nat) :
    ((List.range k).map (items[·]?)).reduceOption = items.take k := by
  induction k with
  | zero => rfl
  | succ k ih =>
    rw [List.range_succ, List.map_append, List.map_singleton, List.reduceOption_append, ih,
      List.reduceOption_singleton, List.take_add_one]

/-- What comes of `k` requests to a fresh walk: calls give the items listed, one each, and then none;
taking items gives the same ones; and either way so many polls are made. -/
structure Answers (cursor : Cursor α) (isEnd : α → Bool) (items : List α) (k polls : Nat)
    (exhausted : Bool) : Prop where
  called : ({ cursor, isEnd } : Walk α).calls k =
    .ok ((List.range k).map (items[·]?), { cursor, isEnd, polls, exhausted })
  taken : ({ cursor, isEnd } : Walk α).take k = .ok (items.take k, { cursor, isEnd, polls, exhausted })

theorem Answers.of_calls {k polls : Nat} {exhausted : Bool}
    (called : ({ cursor, isEnd } : Walk α).calls k =
      .ok ((List.range k).map (items[·]?), { cursor, isEnd, polls, exhausted })) :
    Answers cursor isEnd items k polls exhausted where
  called := called
  taken := by
    rw [take_eq_calls, called]
    exact congrArg (fun items => Except.ok (items, _)) (reduceOption_range items k)

/-- One more call. -/
theorem Answers.succ {k polls polls' : Nat} {exhausted exhausted' : Bool}
    (h : Answers cursor isEnd items k polls exhausted)
    (last : ({ cursor, isEnd, polls, exhausted } : Walk α).next =
      .ok (items[k]?, { cursor, isEnd, polls := polls', exhausted := exhausted' })) :
    Answers cursor isEnd items (k + 1) polls' exhausted' := by
  refine .of_calls ?_
  rw [calls_concat h.called, last, List.range_succ, List.map_append]
  rfl

/-- Up to the end of what the cursor is known to give, each call makes a poll. -/
theorem answers_of_gives (given : cursor.Gives isEnd items) {k : Nat} (hk : k ≤ items.length) :
    Answers cursor isEnd items k k false := by
  induction k with
  | zero => exact .of_calls rfl
  | succ k ih =>
    obtain ⟨poll, more⟩ := given k hk
    refine (ih (Nat.le_of_succ_le hk)).succ ?_
    rw [List.getElem?_eq_getElem hk]
    exact next_item rfl poll more

/-- The call after the last item polls the end, and no later call makes a poll. -/
theorem answers_of_endsAt (given : cursor.Gives isEnd items) (last : cursor.EndsAt isEnd items.length)
    {k : Nat} (hk : items.length < k) : Answers cursor isEnd items k (items.length + 1) true := by
  obtain ⟨item, poll, final⟩ := last
  induction hk with
  | refl =>
    refine (answers_of_gives given (Nat.le_refl _)).succ ?_
    rw [List.getElem?_eq_none (Nat.le_refl _)]
    exact next_end rfl poll final
  | step hk ih =>
    refine ih.succ ?_
    rw [List.getElem?_eq_none (Nat.le_of_lt hk)]
    exact next_exhausted rfl

theorem answers_to_end (given : cursor.Gives isEnd items) (last : cursor.EndsAt isEnd items.length)
    (k : Nat) :
    Answers cursor isEnd items k (min k (items.length + 1)) (decide (items.length < k)) := by
  rcases Nat.lt_or_ge items.length k with late | early
  · rw [Nat.min_eq_right late, decide_eq_true late]
    exact answers_of_endsAt given last late
  · rw [Nat.min_eq_left (Nat.le_succ_of_le early), decide_eq_false (Nat.not_lt.mpr early)]
    exact answers_of_gives given early

theorem calls_of_crash {message : String} (given : cursor.Gives isEnd items)
    (crash : cursor items.length = .error message) {k : Nat} (hk : items.length < k) :
    ({ cursor, isEnd } : Walk α).calls k = .error message := by
  induction hk with
  | refl =>
    rw [calls_concat (answers_of_gives given (Nat.le_refl _)).called, next_crash rfl crash]
    rfl
  | step hk ih =>
    rw [calls_succ, ih]
    rfl

end Walk

/-! ### A copied list -/

theorem getElem?_takeWhile {α : Type} {p : α → Bool} {l : List α} {n : Nat}
    (h : n ≤ (l.takeWhile p).length) : (l.takeWhile p)[n]? = l[n]?.filter p := by
  induction l generalizing n with
  | nil => rfl
  | cons a l ih =>
    cases pa : p a with
    | true =>
      rw [List.takeWhile_cons_of_pos pa] at h ⊢
      cases n with
      | zero => simp [Option.filter, pa]
      | succ n => exact ih (Nat.le_of_succ_le_succ h)
    | false =>
      rw [List.takeWhile_cons_of_neg (by simp [pa])] at h ⊢
      obtain rfl : n = 0 := Nat.le_zero.mp h
      simp [Option.filter, pa]

/-- The longest beginning of a list that holds no end. -/
structure IsLongestOpen {α : Type} (isEnd : α → Bool) (items found : List α) : Prop where
  begins : found <+: items
  goesOn : ∀ item ∈ found, isEnd item = false
  longest : ∀ other, other <+: items → (∀ item ∈ other, isEnd item = false) → other <+: found

theorem takeWhile_isLongestOpen {α : Type} (isEnd : α → Bool) (items : List α) :
    IsLongestOpen isEnd items (items.takeWhile (!isEnd ·)) where
  begins := List.takeWhile_prefix _
  goesOn item found := by simpa using List.mem_takeWhile_imp found
  longest := by
    rintro other ⟨rest, rfl⟩ goesOn
    rw [List.takeWhile_append_of_pos fun item h => by simp [goesOn item h]]
    exact List.prefix_append _ _

section Snapshot

variable {α : Type} [Inhabited α] {isEnd : α → Bool} {items : List α} {n : Nat}

/-- As long as no end has come, a poll of the copied list tells whether another item comes before it. -/
theorem getElem?_beforeEnd (ending : isEnd default = true)
    (h : n ≤ (items.takeWhile (!isEnd ·)).length) :
    (items.takeWhile (!isEnd ·))[n]? =
      if isEnd (items.getD n default) then none else some (items.getD n default) := by
  rw [getElem?_takeWhile h, List.getD_eq_getElem?_getD]
  cases items[n]? with
  | none => simp [ending]
  | some item => cases last : isEnd item <;> simp [Option.filter, last]

theorem snapshot_gives (ending : isEnd default = true) :
    (Cursor.snapshot items).Gives isEnd (items.takeWhile (!isEnd ·)) := by
  intro i hi
  have item := getElem?_beforeEnd ending (Nat.le_of_lt hi)
  rw [List.getElem?_eq_getElem hi] at item
  split at item
  · cases item
  · rename_i more
    rw [Option.some.inj item]
    exact ⟨rfl, Bool.eq_false_iff.mpr more⟩

theorem snapshot_endsAt (ending : isEnd default = true) :
    (Cursor.snapshot items).EndsAt isEnd (items.takeWhile (!isEnd ·)).length := by
  have item := getElem?_beforeEnd ending (Nat.le_refl (items.takeWhile (!isEnd ·)).length)
  rw [List.getElem?_eq_none (Nat.le_refl _)] at item
  split at item
  · rename_i last
    exact ⟨_, rfl, last⟩
  · cases item

end Snapshot

namespace Walk

/-- What a reader of cursors can rely on, whatever item marks the end. -/
structure ReadsDirectly {α : Type} (isEnd : α → Bool) : Prop where
  /-- If the first end comes with poll `n`, the calls give the items of the `n` polls before it and then
  none for ever, and no poll is made after it. -/
  ended : ∀ (cursor : Cursor α) (n : Nat), cursor.GoesOn isEnd n → cursor.EndsAt isEnd n →
    ∃ items, items.length = n ∧ cursor.Gives isEnd items ∧
      ∀ k, Answers cursor isEnd items k (min k (n + 1)) (decide (n < k))
  /-- If there is no end, each call makes one poll and gives its item. -/
  endless : ∀ cursor : Cursor α, (∀ n, cursor.GoesOn isEnd n) → ∀ k,
    ∃ items, items.length = k ∧ cursor.Gives isEnd items ∧ Answers cursor isEnd items k k false
  /-- A crash before the end is one of the call that makes the poll. -/
  crashed : ∀ (cursor : Cursor α) (n : Nat) (message : String), cursor.GoesOn isEnd n →
    cursor n = .error message →
    ∃ items, items.length = n ∧ cursor.Gives isEnd items ∧
      (∀ k ≤ n, Answers cursor isEnd items k k false) ∧
      ∀ k, n < k → ({ cursor, isEnd } : Walk α).calls k = .error message
  /-- Of a copied list the calls give the longest beginning without an end. -/
  copied : ∀ [Inhabited α] (items : List α), isEnd default = true →
    ∃ found, IsLongestOpen isEnd items found ∧
      ∀ k, Answers (.snapshot items) isEnd found k (min k (found.length + 1)) (decide (found.length < k))

/-- A walk reads every cursor as one reads it who polls it directly up to its first end. -/
theorem reads_directly {α : Type} (isEnd : α → Bool) : ReadsDirectly isEnd where
  ended cursor n before last := by
    obtain ⟨items, rfl, given⟩ := before.exists_items
    exact ⟨items, rfl, given, answers_to_end given last⟩
  endless cursor before k := by
    obtain ⟨items, rfl, given⟩ := (before k).exists_items
    exact ⟨items, rfl, given, answers_of_gives given (Nat.le_refl _)⟩
  crashed cursor n message before crash := by
    obtain ⟨items, rfl, given⟩ := before.exists_items
    exact ⟨items, rfl, given, fun k => answers_of_gives given, fun k => calls_of_crash given crash⟩
  copied items ending :=
    ⟨_, takeWhile_isLongestOpen isEnd items, answers_to_end (snapshot_gives ending) (snapshot_endsAt ending)⟩

/-- A cursor that would crash after its end is not polled there. -/
example :
    (({ cursor := fun n => if n < 2 then .ok (n + 7) else if n = 2 then .ok 0 else .error "lost"
        isEnd := (· == 0) } : Walk Nat).calls 5).map (fun step => (step.1, step.2.polls, step.2.exhausted)) =
      .ok ([some 7, some 8, none, none, none], 3, true) := rfl

end Walk

end MacAgent
