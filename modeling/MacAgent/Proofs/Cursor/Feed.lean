import MacAgent.Cursor.Bridge
import MacAgent.Proofs.Cursor.Calls
import MacAgent.Proofs.Cursor.InPlace
import MacAgent.Proofs.Plane.Runs

/-! # Traversals visit the items before the end

A feed over a copied list gives the items of the list up to the first end, one after another, by
either bridge and however far the thread runs ahead. So a traversal is a recursion over these items
(`Plane.traverse_induction`); only the polls of the cursor, of which the plane is told in between,
tell the bridges apart. A reader that is dropped before the end leaves no thread behind. -/

namespace MacAgent

namespace Handoff

variable {α : Type}

theorem finish_cancelled (h : Handoff α) : h.finish.cancelled = h.cancelled := by
  have settled : h.hangUp.settle.cancelled = h.cancelled := advanceBy_cancelled h.hangUp 6
  unfold finish
  dsimp only
  cases hj : h.hangUp.settle.join? with
  | none => exact settled
  | some h' =>
    rcases join?_eq_some hj with ⟨-, rfl⟩ | ⟨-, -, rfl⟩ | ⟨-, -, rfl⟩
    · exact settled
    · exact settled
    · exact settled

/-- A call for an item does not cancel the token. -/
theorem next_cancelled (h : Handoff α) (lead : Nat) : (h.next lead).2.cancelled = h.cancelled := by
  have ahead := advanceBy_cancelled h lead
  have settled : (h.advanceBy lead).settle.cancelled = h.cancelled :=
    (advanceBy_cancelled _ 6).trans ahead
  unfold next
  dsimp only
  split
  · exact (finish_cancelled _).trans ahead
  · split
    · exact ahead
    · split
      · rename_i received
        obtain ⟨-, -, rfl⟩ := receive?_eq_some received
        exact settled
      · exact (finish_cancelled _).trans settled

end Handoff

namespace Feed

variable {α : Type} [Inhabited α] {items : List α} {isEnd : α → Bool} {n : Nat} {feed : Feed α}

/-- A feed over a copied list that has given the first `n` items, and may give more. -/
def HasGiven (items : List α) (isEnd : α → Bool) (n : Nat) : Feed α → Prop
  | .inline walk =>
    walk.cursor = .snapshot items ∧ walk.isEnd = isEnd ∧ walk.polls = n ∧ walk.exhausted = false
  | .threaded handoff => ∃ s, Session.Reachable (.snapshot items) isEnd s ∧ s.reader = .idle ∧
    s.handoff = handoff ∧ s.handoff.cancelled = false ∧ s.received.length = n

/-- A feed that has told its reader that there is no item. -/
def HasEnded (items : List α) (isEnd : α → Bool) : Feed α → Prop
  | .inline walk => walk.exhausted = true
  | .threaded handoff => ∃ s, Session.Reachable (.snapshot items) isEnd s ∧ s.reader = .idle ∧
    s.handoff = handoff ∧ .next none ∈ s.replies

theorem start_hasGiven (bridge : Bridge) : (start bridge isEnd items).HasGiven items isEnd 0 := by
  cases bridge with
  | inline => exact ⟨rfl, rfl, rfl, rfl⟩
  | threaded => exact ⟨_, .start, rfl, rfl, rfl, rfl⟩

theorem HasGiven.next_inline {walk : Walk α} (h : (Feed.inline walk).HasGiven items isEnd n) (lead : Nat) :
    isEnd (items.getD n default) = true ∧ (Feed.inline walk).next lead =
      (none, .inline { walk with polls := walk.polls + 1, exhausted := true }) ∨
    isEnd (items.getD n default) = false ∧ (Feed.inline walk).next lead =
      (some (items.getD n default), .inline { walk with polls := walk.polls + 1 }) := by
  obtain ⟨cursor, rfl, polls, fresh⟩ := h
  have poll : walk.cursor walk.polls = .ok (items.getD n default) := by rw [cursor, polls]; rfl
  cases last : walk.isEnd (items.getD n default) with
  | true =>
    refine .inl ⟨rfl, ?_⟩
    simp only [Feed.next, Walk.next_end fresh poll last]
  | false =>
    refine .inr ⟨rfl, ?_⟩
    simp only [Feed.next, Walk.next_item fresh poll last]

/-- The next item is the one after those given, unless that one is an end. -/
theorem HasGiven.next (h : feed.HasGiven items isEnd n) (lead : Nat) :
    isEnd (items.getD n default) = true ∧ (feed.next lead).1 = none ∧
      (feed.next lead).2.HasEnded items isEnd ∨
    isEnd (items.getD n default) = false ∧ (feed.next lead).1 = some (items.getD n default) ∧
      (feed.next lead).2.HasGiven items isEnd (n + 1) := by
  cases feed with
  | inline walk =>
    rcases h.next_inline lead with ⟨last, step⟩ | ⟨more, step⟩
    · rw [step]
      exact .inl ⟨last, rfl, rfl⟩
    · obtain ⟨cursor, same, polls, fresh⟩ := h
      rw [step]
      exact .inr ⟨more, rfl, cursor, same, congrArg (· + 1) polls, fresh⟩
  | threaded handoff =>
    obtain ⟨s, reached, idle, rfl, token, given⟩ := h
    have reached' := reached.next idle lead
    have token' : (s.handoff.next lead).2.cancelled = false :=
      (Handoff.next_cancelled _ _).trans token
    simp only [Feed.next]
    cases reply : (s.handoff.next lead).1 with
    | some item =>
      rw [reply] at reached'
      obtain ⟨poll, more⟩ := reached'.inv.item_of_reply
      obtain rfl : items.getD n default = item := by
        rw [← given]
        exact Except.ok.inj poll
      refine .inr ⟨more, rfl, _, reached', rfl, rfl, token', ?_⟩
      rw [Session.received_reply, List.length_append]
      exact congrArg (· + 1) given
    | none =>
      rw [reply] at reached'
      have ended : (Feed.threaded (s.handoff.next lead).2).HasEnded items isEnd :=
        ⟨_, reached', rfl, rfl, List.mem_append_right _ (List.mem_singleton_self _)⟩
      rcases reached'.inv.stop_of_reply token' with ⟨message, poll⟩ | ⟨item, poll, last⟩
      · cases poll
      · obtain rfl : items.getD n default = item := by
          rw [← given]
          exact Except.ok.inj poll
        exact .inl ⟨last, rfl, ended⟩

/-! ### Dropping the reader -/

/-- Nothing is left that could poll the cursor. -/
def IsReleased : Feed α → Prop
  | .inline _ => True
  | .threaded handoff => handoff.joined = true ∧ handoff.producer.isOver = true

/-- A reader that is dropped after `n` items leaves no thread behind, and no more than one poll for which it
had not asked. -/
theorem HasGiven.release (h : feed.HasGiven items isEnd n) (lead : Nat) :
    (feed.release lead).IsReleased ∧ (feed.release lead).polls ≤ n + 1 := by
  cases feed with
  | inline walk =>
    obtain ⟨-, -, polls, -⟩ := h
    exact ⟨trivial, Nat.le_succ_of_le (Nat.le_of_eq polls)⟩
  | threaded handoff =>
    obtain ⟨s, reached, idle, rfl, -, given⟩ := h
    have inv := ((reached.advanceBy lead).release idle).inv
    have joined : (s.handoff.advanceBy lead).release.joined = true := inv.attends
    refine ⟨⟨joined, (inv.orderly.joined joined).2⟩, ?_⟩
    rw [← given]
    exact inv.stands.polls_le

/-! ### Calls one after another -/

theorem HasEnded.next (h : feed.HasEnded items isEnd) (lead : Nat) :
    (feed.next lead).1 = none ∧ (feed.next lead).2.HasEnded items isEnd := by
  cases feed with
  | inline walk =>
    have exhausted : walk.exhausted = true := h
    have step : (Feed.inline walk).next lead = (none, .inline walk) := by
      simp only [Feed.next, Walk.next_exhausted exhausted]
    rw [step]
    exact ⟨rfl, exhausted⟩
  | threaded handoff =>
    obtain ⟨s, reached, idle, rfl, told⟩ := h
    have reached' := reached.next idle lead
    -- A reply after a closing one is a closing one.
    have closing : (Reply.next (s.handoff.next lead).1).IsClosing :=
      (List.pairwise_append.mp reached'.inv.replied.order).2.2 _ told _ (List.mem_singleton_self _) rfl
    exact ⟨closing, _, reached', rfl, rfl, List.mem_append_left _ told⟩

/-- A feed that has been called `n` times. -/
def HasAnswered (items : List α) (isEnd : α → Bool) (n : Nat) (feed : Feed α) : Prop :=
  n ≤ (items.takeWhile (!isEnd ·)).length ∧ feed.HasGiven items isEnd n ∨
  (items.takeWhile (!isEnd ·)).length < n ∧ feed.HasEnded items isEnd

/-- Call `n` gives item `n`, if that comes before the first end. -/
theorem HasAnswered.next (ending : isEnd default = true) (h : feed.HasAnswered items isEnd n) (lead : Nat) :
    (feed.next lead).1 = (items.takeWhile (!isEnd ·))[n]? ∧
      (feed.next lead).2.HasAnswered items isEnd (n + 1) := by
  rcases h with ⟨early, given⟩ | ⟨late, ended⟩
  · have item := getElem?_beforeEnd ending early
    rcases given.next lead with ⟨last, reply, ended⟩ | ⟨more, reply, given'⟩
    · have none_left : (items.takeWhile (!isEnd ·))[n]? = none := by rw [item, if_pos last]
      refine ⟨reply.trans none_left.symm, .inr ⟨?_, ended⟩⟩
      exact Nat.lt_succ_of_le (List.getElem?_eq_none_iff.mp none_left)
    · have some_left : (items.takeWhile (!isEnd ·))[n]? = some (items.getD n default) := by
        rw [item, if_neg (Bool.eq_false_iff.mp more)]
      refine ⟨reply.trans some_left.symm, .inl ⟨?_, given'⟩⟩
      exact (List.getElem?_eq_some_iff.mp some_left).1
  · obtain ⟨reply, ended'⟩ := ended.next lead
    refine ⟨reply.trans (List.getElem?_eq_none_iff.mpr (Nat.le_of_lt late)).symm, .inr ⟨?_, ended'⟩⟩
    exact Nat.lt_succ_of_lt late

/-- A feed that has been called `n` times, and what the calls gave. -/
def HasReplied (items : List α) (isEnd : α → Bool) (n : Nat) (replies : List (Option α)) (feed : Feed α) :
    Prop :=
  feed.HasAnswered items isEnd n ∧ replies = (List.range n).map fun i => (items.takeWhile (!isEnd ·))[i]?

theorem start_hasReplied (bridge : Bridge) : (start bridge isEnd items).HasReplied items isEnd 0 [] :=
  ⟨.inl ⟨Nat.zero_le _, start_hasGiven bridge⟩, rfl⟩

theorem HasReplied.next (ending : isEnd default = true) {replies : List (Option α)}
    (h : feed.HasReplied items isEnd n replies) (lead : Nat) :
    (feed.next lead).2.HasReplied items isEnd (n + 1) (replies ++ [(feed.next lead).1]) := by
  obtain ⟨answered, told⟩ := h
  obtain ⟨reply, answered'⟩ := answered.next ending lead
  refine ⟨answered', ?_⟩
  rw [told, reply, List.range_succ, List.map_append]
  rfl

/-! ### Induction over the items -/

section Visit

variable {σ β : Type} {plane : Plane σ} {source : Source} {act : β → α → PlaneM σ β}
  {motive : β → List α → PlaneM σ β → Prop}

/-- A visit is a recursion over the items that are left, up to the first end. Each round tells the
plane of polls, whose number may depend on the plane's state, and so does a round that fails at its end. -/
theorem visit_induction (ending : isEnd default = true)
    (stop : ∀ (acc : β) (polls : σ → Nat),
      motive acc [] do
        let s ← get
        modify (plane.polled source (polls s))
        return acc)
    (more : ∀ (acc : β) (item : α) (rest : List α) (polls : σ → Nat) (dropped : σ → σ → Nat)
      (next : σ → β → PlaneM σ β), (∀ s acc, motive acc rest (next s acc)) →
      motive acc (item :: rest) do
        let s ← get
        modify (plane.polled source (polls s))
        next s (← onFault (act acc item) fun t => plane.polled source (dropped s t) t))
    {bound : Nat} (hb : items.length < n + bound) (hn : n ≤ items.length)
    (given : feed.HasGiven items isEnd n) (acc : β) :
    motive acc ((items.drop n).takeWhile (!isEnd ·)) (visit plane source act bound feed acc) := by
  induction bound generalizing n feed acc with
  | zero => omega
  | succ bound ih =>
    -- The item does not depend on how far the thread runs ahead.
    cases last : isEnd (items.getD n default) with
    | true =>
      have none_next : ∀ lead, (feed.next lead).1 = none := fun lead => by
        rcases given.next lead with ⟨-, h, -⟩ | ⟨h, -⟩
        · exact h
        · rw [last] at h
          cases h
      have left : (items.drop n).takeWhile (!isEnd ·) = [] := by
        rcases Nat.lt_or_eq_of_le hn with hlt | rfl
        · rw [List.getD_eq_getElem _ _ hlt] at last
          rw [List.drop_eq_getElem_cons hlt, List.takeWhile_cons_of_neg (by simp [last])]
        · rw [List.drop_length, List.takeWhile_nil]
      have unfolded : visit plane source act (bound + 1) feed acc = (do
          let s ← get
          modify (plane.polled source ((feed.next (plane.lead s)).2.polls - feed.polls))
          return acc) := by
        simp only [visit, none_next]
      rw [left, unfolded]
      exact stop acc _
    | false =>
      have item_next : ∀ lead, (feed.next lead).1 = some (items.getD n default) ∧
          (feed.next lead).2.HasGiven items isEnd (n + 1) := fun lead => by
        rcases given.next lead with ⟨h, -⟩ | ⟨-, h⟩
        · rw [last] at h
          cases h
        · exact h
      have hlt : n < items.length := by
        refine Nat.lt_of_le_of_ne hn fun heq => ?_
        rw [List.getD_eq_default _ _ (Nat.le_of_eq heq.symm), ending] at last
        cases last
      have left : (items.drop n).takeWhile (!isEnd ·) =
          items.getD n default :: (items.drop (n + 1)).takeWhile (!isEnd ·) := by
        rw [List.getD_eq_getElem _ _ hlt] at last ⊢
        rw [List.drop_eq_getElem_cons hlt, List.takeWhile_cons_of_pos (by simp [last])]
      have unfolded : visit plane source act (bound + 1) feed acc = (do
          let s ← get
          modify (plane.polled source ((feed.next (plane.lead s)).2.polls - feed.polls))
          visit plane source act bound (feed.next (plane.lead s)).2
            (← onFault (act acc (items.getD n default)) ((feed.next (plane.lead s)).2.abandon plane source))) := by
        simp only [visit, (item_next _).1]
      rw [left, unfolded]
      exact more acc _ _ _ _ _ fun s acc => ih (by omega) hlt (item_next _).2 acc

end Visit

end Feed

/-- A traversal is a recursion over the items before the first end, by either bridge. -/
theorem Plane.traverse_induction {σ α β : Type} [Inhabited α] {plane : Plane σ} {bridge : Bridge}
    {source : Source} {isEnd : α → Bool} {items : List α} {act : β → α → PlaneM σ β}
    {motive : β → List α → PlaneM σ β → Prop} (ending : isEnd default = true)
    (stop : ∀ (acc : β) (polls : σ → Nat),
      motive acc [] do
        let s ← get
        modify (plane.polled source (polls s))
        return acc)
    (more : ∀ (acc : β) (item : α) (rest : List α) (polls : σ → Nat) (dropped : σ → σ → Nat)
      (next : σ → β → PlaneM σ β), (∀ s acc, motive acc rest (next s acc)) →
      motive acc (item :: rest) do
        let s ← get
        modify (plane.polled source (polls s))
        next s (← onFault (act acc item) fun t => plane.polled source (dropped s t) t))
    (acc : β) :
    motive acc (items.takeWhile (!isEnd ·)) (plane.traverse bridge source isEnd items act acc) :=
  Feed.visit_induction (n := 0) ending stop more (by omega) (Nat.zero_le _)
    (Feed.start_hasGiven bridge) acc

/-- Where polls leave the plane alone, a traversal is the recursion itself. -/
theorem Plane.traverse_eq_foldlM {σ α β : Type} [Inhabited α] {plane : Plane σ}
    (still : ∀ source n s, plane.polled source n s = s) {isEnd : α → Bool} (ending : isEnd default = true)
    (bridge : Bridge) (source : Source) (items : List α) (act : β → α → PlaneM σ β) (acc : β) :
    plane.traverse bridge source isEnd items act acc = (items.takeWhile (!isEnd ·)).foldlM act acc := by
  refine plane.traverse_induction (motive := fun acc items visit => visit = items.foldlM act acc)
    ending ?_ ?_ acc
  · intro acc polls
    funext s
    show (pure acc : PlaneM σ β) (plane.polled source (polls s) s) = _
    rw [still]
    rfl
  · intro acc item rest polls dropped next hnext
    obtain rfl : next = fun _ acc => rest.foldlM act acc := funext fun s => funext (hnext s)
    rw [List.foldlM_cons]
    funext s
    show (onFault (act acc item) (fun t => plane.polled source (dropped s t) t) >>= fun acc =>
      rest.foldlM act acc) (plane.polled source (polls s) s) = _
    rw [still, funext fun t => still source (dropped s t) t, onFault_same]

end MacAgent
