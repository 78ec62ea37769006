import MacAgent.Proofs.Cursor.Session

/-! # What every session keeps

The invariant `Session.Inv` relates the producer's stage to the number of items that the reader has
got, and the reader's stage to the state of the channel. The reader hangs up only after the token is
cancelled or after the producer's end; so a producer that ends without cancellation and without a
crash has met the end of its cursor. -/

namespace MacAgent

/-- The items listed are the first that the cursor gives, all of them before its end. -/
def Cursor.Gives {α : Type} (cursor : Cursor α) (isEnd : α → Bool) (items : List α) : Prop :=
  ∀ i (h : i < items.length), cursor i = .ok items[i] ∧ isEnd items[i] = false

/-- Poll `n` of the cursor gives an item that marks the end. -/
def Cursor.EndsAt {α : Type} (cursor : Cursor α) (isEnd : α → Bool) (n : Nat) : Prop :=
  ∃ item, cursor n = .ok item ∧ isEnd item = true

/-- Poll `n` of the cursor crashes. -/
def Cursor.CrashesAt {α : Type} (cursor : Cursor α) (n : Nat) : Prop :=
  ∃ message, cursor n = .error message

namespace Cursor

variable {α : Type} {cursor : Cursor α} {isEnd : α → Bool} {items : List α} {item : α} {n : Nat}

theorem gives_nil : cursor.Gives isEnd [] := fun _ h => absurd h (Nat.not_lt_zero _)

theorem Gives.concat (h : cursor.Gives isEnd items) (hc : cursor items.length = .ok item)
    (he : isEnd item = false) : cursor.Gives isEnd (items ++ [item]) := by
  intro i hi
  by_cases hlt : i < items.length
  · rw [List.getElem_append_left hlt]
    exact h i hlt
  · rw [List.length_append, List.length_singleton] at hi
    obtain rfl : i = items.length := by omega
    rw [List.getElem_concat_length rfl]
    exact ⟨hc, he⟩

/-- A cursor gives no item at a crash. -/
theorem Gives.le_of_crashesAt (h : cursor.Gives isEnd items) (he : cursor.CrashesAt n) :
    items.length ≤ n := by
  obtain ⟨message, hc⟩ := he
  refine Nat.le_of_not_lt fun hlt => ?_
  rw [(h n hlt).1] at hc
  cases hc

end Cursor

namespace Handoff

variable {α : Type} {h h' : Handoff α}

/-! ### Steps of the producer -/

/-- What a step of the producer does, by its stage. -/
inductive Advance (h : Handoff α) : Handoff α → Prop where
  | stopBeforePoll (stage : h.producer = .start) (stop : h.cancelled = true) :
      Advance h { h with producer := .ended }
  | begin (stage : h.producer = .start) (go : h.cancelled = false) :
      Advance h { h with producer := .polling }
  | crash (message : String) (stage : h.producer = .polling) (poll : h.cursor h.polls = .error message) :
      Advance h { h with producer := .crashed, polls := h.polls + 1 }
  | finish (item : α) (stage : h.producer = .polling) (poll : h.cursor h.polls = .ok item)
      (last : h.isEnd item = true) : Advance h { h with producer := .ended, polls := h.polls + 1 }
  | hold (item : α) (stage : h.producer = .polling) (poll : h.cursor h.polls = .ok item)
      (more : h.isEnd item = false) :
      Advance h { h with producer := .holding item, polls := h.polls + 1 }
  | stopBeforeOffer (item : α) (stage : h.producer = .holding item) (stop : h.cancelled = true) :
      Advance h { h with producer := .ended }
  | offer (item : α) (stage : h.producer = .holding item) (go : h.cancelled = false) :
      Advance h { h with producer := .offering item }
  | refused (item : α) (stage : h.producer = .offering item) (deaf : h.listening = false) :
      Advance h { h with producer := .ended }
  | count (stage : h.producer = .handed) :
      Advance h { h with producer := .start, handed := h.handed + 1 }

theorem advance_inv (ha : h.advance = some h') : Advance h h' := by
  unfold advance at ha
  cases stage : h.producer with
  | start =>
    simp only [stage, Option.some.injEq] at ha
    subst ha
    by_cases token : h.cancelled = true
    · rw [if_pos token]
      exact .stopBeforePoll stage token
    · rw [if_neg token]
      exact .begin stage (Bool.eq_false_iff.mpr token)
  | polling =>
    simp only [stage, Nat.add_sub_cancel] at ha
    cases poll : h.cursor h.polls with
    | error message =>
      simp only [poll, Option.some.injEq] at ha
      subst ha
      exact .crash message stage poll
    | ok item =>
      simp only [poll, Option.some.injEq] at ha
      subst ha
      by_cases last : h.isEnd item = true
      · rw [if_pos last]
        exact .finish item stage poll last
      · rw [if_neg last]
        exact .hold item stage poll (Bool.eq_false_iff.mpr last)
  | holding item =>
    simp only [stage, Option.some.injEq] at ha
    subst ha
    by_cases token : h.cancelled = true
    · rw [if_pos token]
      exact .stopBeforeOffer item stage token
    · rw [if_neg token]
      exact .offer item stage (Bool.eq_false_iff.mpr token)
  | offering item =>
    simp only [stage] at ha
    by_cases ears : h.listening = true
    · rw [if_pos ears] at ha
      cases ha
    · rw [if_neg ears] at ha
      cases ha
      exact .refused item stage (Bool.eq_false_iff.mpr ears)
  | handed =>
    simp only [stage, Option.some.injEq] at ha
    subst ha
    exact .count stage
  | ended => simp [stage] at ha
  | crashed => simp [stage] at ha

theorem receive?_eq_some {item : α} (hr : h.receive? = some (item, h')) :
    h.producer = .offering item ∧ h.listening = true ∧ h' = { h with producer := .handed } := by
  unfold receive? at hr
  split at hr
  · rename_i offered stage ears
    simp only [Option.some.injEq, Prod.mk.injEq] at hr
    obtain ⟨rfl, rfl⟩ := hr
    exact ⟨stage, ears, rfl⟩
  · cases hr

theorem join?_eq_some (hj : h.join? = some h') :
    (h.joined = true ∧ h' = h) ∨
    (h.joined = false ∧ h.producer = .ended ∧ h' = { h with joined := true, produced? := some h.handed }) ∨
    (h.joined = false ∧ h.producer = .crashed ∧ h' = { h with joined := true }) := by
  unfold join? at hj
  cases joined : h.joined with
  | true =>
    simp only [joined, if_true, Option.some.injEq] at hj
    exact .inl ⟨rfl, hj.symm⟩
  | false =>
    simp only [joined, Bool.false_eq_true, if_false] at hj
    split at hj
    · rename_i stage
      exact .inr (.inl ⟨rfl, stage, (Option.some.inj hj).symm⟩)
    · rename_i stage
      exact .inr (.inr ⟨rfl, stage, (Option.some.inj hj).symm⟩)
    · cases hj

/-! ### Stages -/

/-- What the producer's stage says once the reader has got `n` items. -/
def Stands (h : Handoff α) (n : Nat) : Prop :=
  match h.producer with
  | .start | .polling => h.polls = n ∧ h.handed = n
  | .holding item | .offering item =>
    h.polls = n + 1 ∧ h.handed = n ∧ h.cursor n = .ok item ∧ h.isEnd item = false
  | .handed => h.polls = n ∧ h.handed + 1 = n
  | .ended => h.polls ≤ n + 1 ∧ h.handed = n ∧ (h.cancelled = true ∨ h.cursor.EndsAt h.isEnd n)
  | .crashed => h.polls = n + 1 ∧ h.handed = n ∧ h.cursor.CrashesAt n

/-- The producer's count is known exactly if the reader has waited for an end without a crash. -/
structure Reports (h : Handoff α) : Prop where
  early : h.joined = false → h.produced? = none
  ended : h.joined = true → h.producer = .ended → h.produced? = some h.handed
  crashed : h.joined = true → h.producer = .crashed → h.produced? = none

/-- The reader hangs up after a cancellation or after the producer's end, and before it waits for
that end. -/
structure Orderly (h : Handoff α) : Prop where
  hungUp : h.listening = false → h.cancelled = true ∨ h.producer.isOver = true
  joined : h.joined = true → h.listening = false ∧ h.producer.isOver = true

theorem Stands.polls_le {n : Nat} (hs : h.Stands n) : h.polls ≤ n + 1 := by
  unfold Stands at hs
  split at hs <;> omega

theorem Stands.advance {n : Nat} (hs : h.Stands n) (ho : h.Orderly) (ha : h.Advance h') : h'.Stands n := by
  unfold Stands at hs
  cases ha with
  | stopBeforePoll stage stop =>
    simp only [stage] at hs
    exact ⟨by simp only [hs.1]; omega, hs.2, .inl stop⟩
  | begin stage go =>
    simp only [stage] at hs
    exact hs
  | crash message stage poll =>
    simp only [stage] at hs
    exact ⟨by simp only [hs.1], hs.2, message, hs.1 ▸ poll⟩
  | finish item stage poll last =>
    simp only [stage] at hs
    exact ⟨by simp only [hs.1]; omega, hs.2, .inr ⟨item, hs.1 ▸ poll, last⟩⟩
  | hold item stage poll more =>
    simp only [stage] at hs
    exact ⟨by simp only [hs.1], hs.2, hs.1 ▸ poll, more⟩
  | stopBeforeOffer item stage stop =>
    simp only [stage] at hs
    exact ⟨by simp only [hs.1]; omega, hs.2.1, .inl stop⟩
  | offer item stage go =>
    simp only [stage] at hs
    exact hs
  | refused item stage deaf =>
    -- The reader that refuses an offer has cancelled the token before.
    simp only [stage] at hs
    refine ⟨by simp only [hs.1]; omega, hs.2.1, ?_⟩
    rcases ho.hungUp deaf with stop | ended
    · exact .inl stop
    · rw [stage] at ended
      cases ended
  | count stage =>
    simp only [stage] at hs
    exact hs

theorem Stands.cancelToken {n : Nat} (hs : h.Stands n) : h.cancelToken.Stands n := by
  unfold Stands at hs ⊢
  cases stage : h.producer <;> simp only [stage, Handoff.cancelToken] at hs ⊢
  case ended => exact ⟨hs.1, hs.2.1, .inl trivial⟩
  all_goals exact hs

/-! ### What a step of the producer leaves alone -/

namespace Advance

theorem running (ha : h.Advance h') : h.producer.isOver = false := by
  cases ha <;> simp [Producer.isOver, *]

theorem listening_eq (ha : h.Advance h') : h'.listening = h.listening := by cases ha <;> rfl

theorem cancelled_eq (ha : h.Advance h') : h'.cancelled = h.cancelled := by cases ha <;> rfl

theorem joined_eq (ha : h.Advance h') : h'.joined = h.joined := by cases ha <;> rfl

theorem produced_eq (ha : h.Advance h') : h'.produced? = h.produced? := by cases ha <;> rfl

theorem cursor_eq (ha : h.Advance h') : h'.cursor = h.cursor := by cases ha <;> rfl

theorem isEnd_eq (ha : h.Advance h') : h'.isEnd = h.isEnd := by cases ha <;> rfl

end Advance

theorem Orderly.not_joined (ho : h.Orderly) (running : h.producer.isOver = false) : h.joined = false := by
  cases joined : h.joined
  · rfl
  · rw [(ho.joined joined).2] at running
    cases running

theorem Orderly.advance (ho : h.Orderly) (ha : h.Advance h') : h'.Orderly := by
  have running := ha.running
  refine ⟨fun deaf => .inl ?_, fun joined => ?_⟩
  · rcases ho.hungUp (ha.listening_eq ▸ deaf) with stop | ended
    · exact ha.cancelled_eq.trans stop
    · rw [running] at ended
      cases ended
  · rw [ha.joined_eq, ho.not_joined running] at joined
    cases joined

theorem Orderly.cancelToken (ho : h.Orderly) : h.cancelToken.Orderly :=
  ⟨fun _ => .inl rfl, ho.joined⟩

theorem Reports.advance (hr : h.Reports) (ho : h.Orderly) (ha : h.Advance h') : h'.Reports := by
  have early := ho.not_joined ha.running
  have early' : h'.joined = false := ha.joined_eq.trans early
  refine ⟨fun _ => ha.produced_eq.trans (hr.early early), fun joined => ?_, fun joined => ?_⟩
  all_goals
    rw [early'] at joined
    cases joined

end Handoff

namespace Session

variable {α : Type} {cursor : Cursor α} {isEnd : α → Bool} {s t : Session α}

/-! ### Steps of the reader -/

/-- What a step of the reader inside a call does, by its stage. -/
inductive Proceed (s : Session α) : Session α → Prop where
  | notice (stage : s.reader = .asking) (stop : s.handoff.cancelled = true) :
      Proceed s { s with reader := .leaving .next }
  | listen (stage : s.reader = .asking) (ears : s.handoff.listening = true) :
      Proceed s { s with reader := .waiting }
  | revoke (stage : s.reader = .asking) (deaf : s.handoff.listening = false) :
      Proceed s (s.reply (.next none))
  | take (item : α) (stage : s.reader = .waiting) (ears : s.handoff.listening = true)
      (offer : s.handoff.producer = .offering item) :
      Proceed s ({ s with handoff := { s.handoff with producer := .handed } }.reply (.next (some item)))
  | miss (stage : s.reader = .waiting) (ended : s.handoff.producer.isOver = true) :
      Proceed s { s with reader := .leaving .next }
  | stop (call : Call) (stage : s.reader = .stopping call) :
      Proceed s { s with handoff := s.handoff.cancelToken, reader := .leaving call }
  | hangUp (call : Call) (stage : s.reader = .leaving call) :
      Proceed s { s with handoff := s.handoff.hangUp, reader := .joining call }
  | join (call : Call) (handoff : Handoff α) (stage : s.reader = .joining call)
      (joined : s.handoff.join? = some handoff) : Proceed s ({ s with handoff }.close call)

theorem proceed_inv (hp : s.proceed = some t) : Proceed s t := by
  unfold proceed at hp
  cases stage : s.reader with
  | idle => simp [stage] at hp
  | asking =>
    simp only [stage] at hp
    split at hp
    · rename_i stop
      cases hp
      exact .notice stage stop
    · split at hp
      · rename_i ears
        cases hp
        exact .listen stage ears
      · rename_i deaf
        cases hp
        exact .revoke stage (Bool.eq_false_iff.mpr deaf)
  | waiting =>
    simp only [stage] at hp
    split at hp
    · rename_i item handoff received
      obtain ⟨offer, ears, rfl⟩ := Handoff.receive?_eq_some received
      cases hp
      exact .take item stage ears offer
    · split at hp
      · rename_i ended
        cases hp
        exact .miss stage ended
      · cases hp
  | stopping call =>
    simp only [stage] at hp
    cases hp
    exact .stop call stage
  | leaving call =>
    simp only [stage] at hp
    cases hp
    exact .hangUp call stage
  | joining call =>
    simp only [stage] at hp
    obtain ⟨handoff, joined, rfl⟩ := Option.map_eq_some_iff.mp hp
    exact .join call handoff stage joined
  | gone => simp [stage] at hp

/-- What the reader's stage says about the channel. -/
def Attends (s : Session α) : Prop :=
  match s.reader with
  | .idle | .asking => s.handoff.listening = false → s.handoff.joined = true
  | .waiting => s.handoff.listening = true
  | .stopping call => call ≠ .next
  | .leaving call => s.handoff.cancelled = true ∨ call = .next ∧ s.handoff.producer.isOver = true
  | .joining call => s.handoff.listening = false ∧ (s.handoff.cancelled = true ∨ call = .next)
  | .gone => s.handoff.joined = true

/-- What holds of the replies: no item comes after a closing reply, and a closing reply comes after the
producer's end. -/
structure Replied (s : Session α) : Prop where
  closed : ∀ r ∈ s.replies, r.IsClosing → s.handoff.joined = true
  cancelled : .cancelled ∈ s.replies → s.handoff.cancelled = true
  order : s.replies.Pairwise fun r r' => r.IsClosing → r'.IsClosing

/-- What every session keeps. -/
structure Inv (cursor : Cursor α) (isEnd : α → Bool) (s : Session α) : Prop where
  cursor_eq : s.handoff.cursor = cursor
  isEnd_eq : s.handoff.isEnd = isEnd
  gives : cursor.Gives isEnd s.received
  stands : s.handoff.Stands s.received.length
  orderly : s.handoff.Orderly
  reports : s.handoff.Reports
  attends : s.Attends
  replied : s.Replied

theorem start_inv : Inv cursor isEnd (.start cursor isEnd) where
  cursor_eq := rfl
  isEnd_eq := rfl
  gives := Cursor.gives_nil
  stands := ⟨rfl, rfl⟩
  orderly := ⟨by simp [start], by simp [start]⟩
  reports := ⟨fun _ => rfl, by simp [start], by simp [start]⟩
  attends := by simp [start, Attends]
  replied := ⟨by simp [start], by simp [start], .nil⟩

/-! ### What every step keeps -/

@[simp]
theorem received_reply (s : Session α) (r : Reply α) :
    (s.reply r).received = s.received ++ r.item?.toList := by
  cases h : r.item? <;> simp [received, reply, List.filterMap_append, h]

theorem Replied.reply (hr : s.Replied) {r : Reply α} (hc : r.IsClosing → s.handoff.joined = true)
    (hn : r = .cancelled → s.handoff.cancelled = true)
    (ho : ¬r.IsClosing → s.handoff.joined = false) : (s.reply r).Replied where
  closed := by
    intro r' hr'
    rcases List.mem_append.mp hr' with hr' | hr'
    · exact hr.closed r' hr'
    · rw [List.mem_singleton.mp hr']
      exact hc
  cancelled := by
    intro hr'
    rcases List.mem_append.mp hr' with hr' | hr'
    · exact hr.cancelled hr'
    · exact hn (List.mem_singleton.mp hr').symm
  order := by
    refine List.pairwise_append.mpr ⟨hr.order, List.pairwise_singleton _ _, fun r₁ h₁ r₂ h₂ closing => ?_⟩
    rw [List.mem_singleton.mp h₂]
    by_cases last : r.IsClosing
    · exact last
    · have := hr.closed r₁ h₁ closing
      rw [ho last] at this
      cases this

theorem Inv.produce {h' : Handoff α} (hi : Inv cursor isEnd s) (ha : s.handoff.Advance h') :
    Inv cursor isEnd { s with handoff := h' } where
  cursor_eq := ha.cursor_eq.trans hi.cursor_eq
  isEnd_eq := ha.isEnd_eq.trans hi.isEnd_eq
  gives := hi.gives
  stands := hi.stands.advance hi.orderly ha
  orderly := hi.orderly.advance ha
  reports := hi.reports.advance hi.orderly ha
  attends := by
    have := hi.attends
    have running := ha.running
    unfold Attends at this ⊢
    simp only [ha.listening_eq, ha.cancelled_eq, ha.joined_eq]
    cases stage : s.reader <;> simp only [stage] at this ⊢ <;> try exact this
    case leaving call =>
      rcases this with stop | ⟨-, ended⟩
      · exact .inl stop
      · rw [running] at ended
        cases ended
  replied :=
    ⟨fun r hr hc => ha.joined_eq.trans (hi.replied.closed r hr hc),
      fun hr => ha.cancelled_eq.trans (hi.replied.cancelled hr), hi.replied.order⟩

theorem Inv.cancelToken (hi : Inv cursor isEnd s) :
    Inv cursor isEnd { s with handoff := s.handoff.cancelToken } where
  cursor_eq := hi.cursor_eq
  isEnd_eq := hi.isEnd_eq
  gives := hi.gives
  stands := hi.stands.cancelToken
  orderly := hi.orderly.cancelToken
  reports := ⟨hi.reports.early, hi.reports.ended, hi.reports.crashed⟩
  attends := by
    have := hi.attends
    unfold Attends at this ⊢
    cases stage : s.reader <;> simp only [stage] at this ⊢ <;> try exact this
    case leaving call => exact .inl rfl
    case joining call => exact ⟨this.1, .inl rfl⟩
  replied := ⟨hi.replied.closed, fun _ => rfl, hi.replied.order⟩

/-- A reader that moves to another stage keeps the channel as it is. -/
theorem Inv.stage {r : Reader} (hi : Inv cursor isEnd s) (ha : Attends { s with reader := r }) :
    Inv cursor isEnd { s with reader := r } :=
  { hi with attends := ha, replied := ⟨hi.replied.closed, hi.replied.cancelled, hi.replied.order⟩ }

theorem Inv.hangUp {call : Call} (hi : Inv cursor isEnd s) (stage : s.reader = .leaving call) :
    Inv cursor isEnd { s with handoff := s.handoff.hangUp, reader := .joining call } := by
  have leaving := hi.attends
  simp only [Attends, stage] at leaving
  exact
    { hi with
      orderly := ⟨fun _ => leaving.imp id And.right, fun joined => ⟨rfl, (hi.orderly.joined joined).2⟩⟩
      reports := ⟨hi.reports.early, hi.reports.ended, hi.reports.crashed⟩
      attends := ⟨rfl, leaving.imp id And.left⟩
      replied := ⟨hi.replied.closed, hi.replied.cancelled, hi.replied.order⟩ }

/-- The reader takes the item that is offered: the next one of the cursor. -/
theorem Inv.take {item : α} (hi : Inv cursor isEnd s) (ears : s.handoff.listening = true)
    (offer : s.handoff.producer = .offering item) :
    Inv cursor isEnd
      ({ s with handoff := { s.handoff with producer := .handed } }.reply (.next (some item))) := by
  have stands := hi.stands
  simp only [Handoff.Stands, offer] at stands
  obtain ⟨polls, handed, item_eq, more⟩ := stands
  have fresh : s.handoff.joined = false := hi.orderly.not_joined (by rw [offer]; rfl)
  refine
    { cursor_eq := hi.cursor_eq, isEnd_eq := hi.isEnd_eq, gives := ?_, stands := ?_, orderly := ?_,
      reports := ?_, attends := ?_, replied := ?_ }
  · rw [received_reply]
    exact hi.gives.concat (hi.cursor_eq ▸ item_eq) (hi.isEnd_eq ▸ more)
  · rw [received_reply]
    simp only [Reply.item?, Option.toList_some, List.length_append, List.length_singleton]
    exact ⟨polls, congrArg (· + 1) handed⟩
  · refine ⟨fun deaf => ?_, fun joined => ?_⟩
    · rw [show s.handoff.listening = false from deaf] at ears
      cases ears
    · rw [show s.handoff.joined = true from joined] at fresh
      cases fresh
  · exact ⟨hi.reports.early, fun _ h => (nomatch h), fun _ h => (nomatch h)⟩
  · intro deaf
    rw [show s.handoff.listening = false from deaf] at ears
    cases ears
  · exact Replied.reply (s := { s with handoff := { s.handoff with producer := .handed } })
      ⟨hi.replied.closed, hi.replied.cancelled, hi.replied.order⟩ (fun h => by cases h)
      (fun h => by cases h) fun _ => fresh

/-- The reader takes note of the producer's end. -/
theorem Inv.join {call : Call} {h' : Handoff α} (hi : Inv cursor isEnd s)
    (stage : s.reader = .joining call) (hj : s.handoff.join? = some h') :
    Inv cursor isEnd { s with handoff := h' } ∧ h'.joined = true ∧ h'.listening = false ∧
      h'.cancelled = s.handoff.cancelled := by
  have attends := hi.attends
  simp only [Attends, stage] at attends
  have orderly := hi.orderly
  rcases Handoff.join?_eq_some hj with ⟨joined, rfl⟩ | ⟨fresh, ended, rfl⟩ | ⟨fresh, crashed, rfl⟩
  · exact ⟨hi, joined, attends.1, rfl⟩
  · refine ⟨{ hi with
      orderly := ⟨orderly.hungUp, fun _ => ⟨attends.1, by simp [ended, Producer.isOver]⟩⟩
      reports := ⟨fun h => (nomatch h), fun _ _ => rfl, fun _ h => (nomatch ended.symm.trans h)⟩
      attends := by simpa only [Attends, stage] using attends
      replied := ⟨fun _ _ _ => rfl, hi.replied.cancelled, hi.replied.order⟩ }, rfl, attends.1, rfl⟩
  · refine ⟨{ hi with
      orderly := ⟨orderly.hungUp, fun _ => ⟨attends.1, by simp [crashed, Producer.isOver]⟩⟩
      reports := ⟨fun h => (nomatch h), fun _ h => (nomatch crashed.symm.trans h),
        fun _ _ => hi.reports.early fresh⟩
      attends := by simpa only [Attends, stage] using attends
      replied := ⟨fun _ _ _ => rfl, hi.replied.cancelled, hi.replied.order⟩ }, rfl, attends.1, rfl⟩

/-- A call returns after the producer's end without an item. -/
theorem Inv.reply_of_joined {r : Reply α} (hi : Inv cursor isEnd s) (joined : s.handoff.joined = true)
    (closing : r.IsClosing) (hc : r = .cancelled → s.handoff.cancelled = true) :
    Inv cursor isEnd (s.reply r) := by
  have same : (s.reply r).received = s.received := by
    rw [received_reply, show r.item? = none from closing]
    exact List.append_nil _
  exact
    { cursor_eq := hi.cursor_eq
      isEnd_eq := hi.isEnd_eq
      gives := same ▸ hi.gives
      stands := same ▸ hi.stands
      orderly := hi.orderly
      reports := hi.reports
      attends := fun _ => joined
      replied := hi.replied.reply (fun _ => joined) hc fun h => absurd closing h }

theorem Inv.proceed (hi : Inv cursor isEnd s) (hp : s.Proceed t) : Inv cursor isEnd t := by
  have attends := hi.attends
  unfold Attends at attends
  cases hp with
  | notice stage stop => exact hi.stage (.inl stop)
  | listen stage ears => exact hi.stage ears
  | revoke stage deaf =>
    simp only [stage] at attends
    exact hi.reply_of_joined (attends deaf) rfl fun h => by cases h
  | take item stage ears offer => exact hi.take ears offer
  | miss stage ended => exact hi.stage (.inr ⟨rfl, ended⟩)
  | stop call stage => exact hi.cancelToken.stage (.inl rfl)
  | hangUp call stage => exact hi.hangUp stage
  | join call handoff stage joined =>
    simp only [stage] at attends
    obtain ⟨hi', joined, deaf, token⟩ := hi.join stage joined
    have cancelled : call ≠ .next → handoff.cancelled = true := fun hne =>
      token.trans (attends.2.resolve_right hne)
    cases call with
    | next => exact hi'.reply_of_joined joined rfl fun h => by cases h
    | cancel => exact hi'.reply_of_joined joined rfl fun _ => cancelled (by simp)
    | drop => exact hi'.stage joined

theorem Inv.begin {call : Call} (hi : Inv cursor isEnd s) (idle : s.reader = .idle) :
    Inv cursor isEnd (s.begin call) := by
  have attends := hi.attends
  simp only [Attends, idle] at attends
  cases call with
  | next => exact hi.stage attends
  | cancel => exact hi.stage (by simp [Attends])
  | drop =>
    refine hi.stage ?_
    cases joined : s.handoff.joined
    · simp [Attends]
    · simpa [Attends] using joined

theorem Inv.step {m : Move} (hi : Inv cursor isEnd s) (hm : s.move m = some t) : Inv cursor isEnd t := by
  cases m with
  | produce =>
    obtain ⟨handoff, ha, rfl⟩ := Option.map_eq_some_iff.mp hm
    exact hi.produce (Handoff.advance_inv ha)
  | read => exact hi.proceed (proceed_inv hm)
  | call call =>
    simp only [move] at hm
    split at hm
    · rename_i idle
      cases hm
      exact hi.begin idle
    · cases hm
  | cancelToken =>
    cases hm
    exact hi.cancelToken

theorem Reachable.inv (h : Reachable cursor isEnd s) : Inv cursor isEnd s := by
  induction h with
  | start => exact start_inv
  | step m _ hm ih => exact ih.step hm

end Session

end MacAgent
