import MacAgent.Proofs.Cursor.Progress

/-! # What a threaded traversal delivers

Whatever the interleaving, the reader gets the items of the cursor from the first on, in order, and
nothing after it was told that the traversal is over. Without a cancellation it gets all of them: up
to the end of the cursor, or up to a crash. -/

namespace MacAgent

namespace Session

variable {α : Type} {cursor : Cursor α} {isEnd : α → Bool} {s : Session α}

/-! ### Replies -/

/-- Where closing replies come last, a reply holds the item of its own number, or closes. -/
theorem reply_at {l : List (Reply α)} (order : l.Pairwise fun r r' => r.IsClosing → r'.IsClosing) :
    ∀ i (h : i < l.length),
      (∃ hi : i < (l.filterMap Reply.item?).length,
        l[i] = .next (some (l.filterMap Reply.item?)[i])) ∨
      (l.filterMap Reply.item?).length ≤ i ∧ l[i].IsClosing := by
  induction l with
  | nil => exact fun i h => absurd h (Nat.not_lt_zero i)
  | cons r l ih =>
    obtain ⟨hr, hl⟩ := List.pairwise_cons.mp order
    intro i h
    cases item : r.item? with
    | some a =>
      rw [List.filterMap_cons_some item]
      cases i with
      | zero => exact .inl ⟨Nat.succ_pos _, Reply.eq_of_item? item⟩
      | succ i =>
        rcases ih hl i (Nat.lt_of_succ_lt_succ h) with ⟨hi, heq⟩ | ⟨hi, closing⟩
        · exact .inl ⟨Nat.succ_lt_succ hi, heq⟩
        · exact .inr ⟨Nat.succ_le_succ hi, closing⟩
    | none =>
      have none_left : l.filterMap Reply.item? = [] :=
        List.filterMap_eq_nil_iff.mpr fun r' hr' => hr r' hr' item
      rw [List.filterMap_cons_none item, none_left]
      refine .inr ⟨Nat.zero_le i, ?_⟩
      cases i with
      | zero => exact item
      | succ i => exact hr _ (List.getElem_mem _) item

/-! ### Without a cancellation -/

/-- A reader that was told the end has seen the cursor's end or a crash, unless it was cancelled. -/
theorem Inv.stop_of_joined (hi : Inv cursor isEnd s) (joined : s.handoff.joined = true)
    (token : s.handoff.cancelled = false) :
    s.handoff.producer = .crashed ∧ cursor.CrashesAt s.received.length ∨
      s.handoff.producer = .ended ∧ cursor.EndsAt isEnd s.received.length := by
  have stands := hi.stands
  have ended := (hi.orderly.joined joined).2
  unfold Producer.isOver at ended
  split at ended
  · rename_i stage
    simp only [Handoff.Stands, stage, hi.cursor_eq, hi.isEnd_eq, token] at stands
    exact .inr ⟨stage, stands.2.2.resolve_left (by simp)⟩
  · rename_i stage
    simp only [Handoff.Stands, stage, hi.cursor_eq] at stands
    exact .inl ⟨stage, stands.2.2⟩
  · cases ended

/-- A call for an item that returns one returns the next item of the cursor. -/
theorem Inv.item_of_reply {item : α} (hi : Inv cursor isEnd (s.reply (.next (some item)))) :
    cursor s.received.length = .ok item ∧ isEnd item = false := by
  have gives := hi.gives
  rw [received_reply] at gives
  simpa [Reply.item?] using gives s.received.length (by simp [Reply.item?])

/-- A call for an item that returns none, without a cancellation, has met the end or a crash. -/
theorem Inv.stop_of_reply (hi : Inv cursor isEnd (s.reply (.next none)))
    (token : s.handoff.cancelled = false) :
    cursor.CrashesAt s.received.length ∨ cursor.EndsAt isEnd s.received.length := by
  have joined := hi.replied.closed (.next none) (by simp [reply]) rfl
  have same : (s.reply (.next none)).received = s.received := by simp [Reply.item?]
  rw [← same]
  exact (hi.stop_of_joined joined token).imp And.right And.right

/-- Without a cancellation, and up to the poll `k` that crashes, reply `i` is item `i`, and none from
reply `k` on. -/
theorem Inv.replies_of_crash (hi : Inv cursor isEnd s) {k : Nat} (crash : cursor.CrashesAt k)
    (before : ∀ i < k, ∃ item, cursor i = .ok item ∧ isEnd item = false)
    (token : s.handoff.cancelled = false) :
    s.replies = (List.range s.replies.length).map
      (fun i => .next (if i < k then (cursor i).toOption else none)) ∧
    s.handoff.produced? = none := by
  have short : s.received.length ≤ k := hi.gives.le_of_crashesAt crash
  have full : s.handoff.joined = true → s.received.length = k ∧ s.handoff.producer = .crashed := by
    intro joined
    rcases hi.stop_of_joined joined token with ⟨stage, message, poll⟩ | ⟨-, last, poll, hend⟩
    · refine ⟨Nat.le_antisymm short (Nat.le_of_not_lt fun hlt => ?_), stage⟩
      obtain ⟨item, hitem, -⟩ := before _ hlt
      rw [hitem] at poll
      cases poll
    · -- The end would come before the crash, or be the crash itself.
      rcases Nat.lt_or_eq_of_le short with hlt | heq
      · obtain ⟨item, hitem, hmore⟩ := before _ hlt
        rw [hitem] at poll
        cases poll
        rw [hmore] at hend
        cases hend
      · obtain ⟨message, hcrash⟩ := crash
        rw [heq, hcrash] at poll
        cases poll
  refine ⟨List.ext_getElem (by simp) fun i hi₁ hi₂ => ?_, ?_⟩
  · rw [List.getElem_map, List.getElem_range]
    rcases reply_at hi.replied.order i hi₁ with ⟨hlt, heq⟩ | ⟨hle, closing⟩
    · have hlt : i < s.received.length := hlt
      rw [heq, if_pos (Nat.lt_of_lt_of_le hlt short), (hi.gives i hlt).1]
      rfl
    · have joined := hi.replied.closed _ (List.getElem_mem hi₁) closing
      have hle : s.received.length ≤ i := hle
      rw [if_neg (by have := (full joined).1; omega)]
      cases reply : s.replies[i] with
      | next item? =>
        rw [reply] at closing
        exact congrArg Reply.next closing
      | cancelled =>
        have stop := hi.replied.cancelled (reply ▸ List.getElem_mem hi₁)
        rw [token] at stop
        cases stop
  · cases joined : s.handoff.joined with
    | false => exact hi.reports.early joined
    | true => exact hi.reports.crashed joined (full joined).2

/-- An end without a crash is reported with the number of the items. -/
theorem Inv.produced_of_ended (hi : Inv cursor isEnd s) (joined : s.handoff.joined = true)
    (sound : s.handoff.producer ≠ .crashed) : s.handoff.produced? = some s.received.length := by
  have ended := (hi.orderly.joined joined).2
  have stands := hi.stands
  unfold Producer.isOver at ended
  split at ended
  · rename_i stage
    simp only [Handoff.Stands, stage] at stands
    rw [hi.reports.ended joined stage, stands.2.1]
  · rename_i stage
    exact absurd stage sound
  · cases ended

/-! ### Delivery -/

/-- What a reader can rely on. -/
structure Delivers (cursor : Cursor α) (isEnd : α → Bool) (s : Session α) : Prop where
  /-- The items are the first ones of the cursor, in order: none is lost and none comes twice. -/
  items : cursor.Gives isEnd s.received
  /-- After a cancellation has returned, and after a call for an item has returned none, no call
  returns an item. -/
  order : s.replies.Pairwise fun r r' => r.IsClosing → r'.IsClosing
  /-- Without a cancellation or a crash, no item is missing when a call returns none. -/
  complete : .next none ∈ s.replies → s.handoff.cancelled = false → s.handoff.producer ≠ .crashed →
    cursor.EndsAt isEnd s.received.length
  /-- If poll `k` crashes before the end and nothing is cancelled, the calls return the first `k` items
  and then none, and the producer's count stays unknown. -/
  crash : ∀ k, cursor.CrashesAt k → (∀ i < k, ∃ item, cursor i = .ok item ∧ isEnd item = false) →
    s.handoff.cancelled = false →
    s.replies = (List.range s.replies.length).map
      (fun i => .next (if i < k then (cursor i).toOption else none)) ∧
    s.handoff.produced? = none
  /-- A reader inside a call is not stuck. -/
  moves : s.reader.IsBusy → ∃ m : Move, m.IsInner ∧ (s.move m).isSome = true
  /-- The two parties cannot go on without a new call, so a call that is not stuck returns. -/
  returns : ∀ inner t, (∀ m ∈ inner, m.IsInner) → s.run inner = some t → inner.length ≤ 12
  /-- Once the reader has waited for an end without a crash, the producer's count is the number of the
  items that it got. -/
  counted : s.handoff.joined = true → s.handoff.producer ≠ .crashed →
    s.handoff.produced? = some s.received.length
  /-- The producer's count, if it is known, is the number of the items that the reader got. -/
  exact : ∀ n, s.handoff.produced? = some n → n = s.received.length

/-- Every interleaving of the producer, the reader and the holders of the token delivers the items of
the cursor in order, and loses none. -/
theorem delivers_in_order (h : Reachable cursor isEnd s) : Delivers cursor isEnd s := by
  have hi := h.inv
  refine
    { items := hi.gives, order := hi.replied.order, complete := fun ended token sound => ?_,
      crash := fun k crash before token => hi.replies_of_crash crash before token,
      moves := hi.exists_move, returns := fun inner t all hr => ?_,
      counted := hi.produced_of_ended, exact := fun n known => ?_ }
  · rcases hi.stop_of_joined (hi.replied.closed _ ended rfl) token with ⟨stage, -⟩ | ⟨-, last⟩
    · exact absurd stage sound
    · exact last
  · have := length_add_work_le all hr
    have := s.work_le
    omega
  · cases joined : s.handoff.joined with
    | false =>
      rw [hi.reports.early joined] at known
      cases known
    | true =>
      by_cases stage : s.handoff.producer = .crashed
      · rw [hi.reports.crashed joined stage] at known
        cases known
      · rw [hi.produced_of_ended joined stage] at known
        exact (Option.some.inj known).symm

/-- A cursor whose poll 1 crashes: the reader gets the one item before it and is then told that there
is none. -/
theorem delivers_up_to_crash :
    ∃ s, Reachable (fun n => if n = 1 then .error "lost" else .ok (n + 7)) (· == 0) s ∧
      s.replies = [.next (some 7), .next none] ∧
      Delivers (fun n => if n = 1 then .error "lost" else .ok (n + 7)) (· == 0) s :=
  have started : Reachable (fun n => if n = 1 then .error "lost" else .ok (n + 7)) (· == 0) _ := .start
  have reached := started.run [.call .next, .read, .produce, .produce, .produce, .read, .produce,
    .call .next, .read, .produce, .produce, .read, .read, .read] rfl
  ⟨_, reached, rfl, delivers_in_order reached⟩

end Session

end MacAgent
