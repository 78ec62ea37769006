import MacAgent.Proofs.Cursor.Progress

/-! # Giving up a traversal

A reader that is done with a cursor cancels the token, hangs up and waits for the producer's end. A
cancelled producer polls at most once more, and a producer to whom nobody listens ends by itself after a
few steps of its own. So the reader does not wait for ever, and the cursor is released when its call
returns. The token is cancelled then too, unless all that the call did was to drop a reader that had
waited for the producer's end before. -/

namespace MacAgent

/-- How many polls a producer at this stage makes if the token is cancelled. -/
def Producer.pollsLeft {α : Type} : Producer α → Nat
  | polling => 1
  | start | holding _ | offering _ | handed | ended | crashed => 0

theorem Producer.pollsLeft_le {α : Type} (p : Producer α) : p.pollsLeft ≤ 1 := by
  cases p <;> simp [pollsLeft]

namespace Handoff

variable {α : Type} {h h' : Handoff α}

theorem Advance.polls_add_le (ha : h.Advance h') (stop : h.cancelled = true) :
    h'.polls + h'.producer.pollsLeft ≤ h.polls + h.producer.pollsLeft := by
  cases ha with
  | begin stage go =>
    rw [stop] at go
    cases go
  | stopBeforePoll stage | crash _ stage | finish _ stage | hold _ stage | stopBeforeOffer _ stage
  | offer _ stage | refused _ stage | count stage => simp [Producer.pollsLeft, stage]

/-- What the reader and the holders of the token do to the producer's side: nothing, unless the reader
takes an item. -/
structure Attended (h h' : Handoff α) : Prop where
  polls : h'.polls = h.polls
  producer : h'.producer = h.producer ∨ h.listening = true ∧ h'.producer = .handed
  deaf : h.listening = false → h'.listening = false
  stop : h.cancelled = true → h'.cancelled = true

theorem attended_of_producer_eq (polls : h'.polls = h.polls) (producer : h'.producer = h.producer)
    (deaf : h.listening = false → h'.listening = false) (stop : h.cancelled = true → h'.cancelled = true) :
    h.Attended h' := ⟨polls, .inl producer, deaf, stop⟩

theorem attended_rfl : h.Attended h := attended_of_producer_eq rfl rfl id id

end Handoff

/-- A step of someone inside the calls that have begun. -/
def Move.IsNoCall (m : Move) : Prop := ∀ call, m ≠ .call call

namespace Session

variable {α : Type} {cursor : Cursor α} {isEnd : α → Bool} {s t u : Session α} {m : Move} {moves : List Move}

@[simp]
theorem close_handoff (s : Session α) (call : Call) : (s.close call).handoff = s.handoff := by
  cases call <;> rfl

theorem close_not_busy (s : Session α) (call : Call) : ¬(s.close call).reader.IsBusy := by
  cases call <;> simp [close, reply, Reader.IsBusy]

/-- A reader between two calls, or dropped, makes no step. -/
theorem proceed_eq_none (h : ¬s.reader.IsBusy) : s.proceed = none := by
  unfold Session.proceed
  cases stage : s.reader with
  | idle | gone => rfl
  | asking | waiting | stopping | leaving | joining =>
    rw [stage] at h
    exact absurd ⟨nofun, nofun⟩ h

theorem Proceed.attended (hp : s.Proceed t) : s.handoff.Attended t.handoff := by
  cases hp with
  | notice | listen | revoke | miss => exact Handoff.attended_rfl
  | take item stage ears offer => exact ⟨rfl, .inr ⟨ears, rfl⟩, id, id⟩
  | stop call stage => exact Handoff.attended_of_producer_eq rfl rfl id fun _ => rfl
  | hangUp call stage => exact Handoff.attended_of_producer_eq rfl rfl (fun _ => rfl) id
  | join call handoff stage joined =>
    rw [close_handoff]
    rcases Handoff.join?_eq_some joined with ⟨-, rfl⟩ | ⟨-, -, rfl⟩ | ⟨-, -, rfl⟩
    · exact Handoff.attended_rfl
    · exact Handoff.attended_of_producer_eq rfl rfl id id
    · exact Handoff.attended_of_producer_eq rfl rfl id id

/-- A move is a step of the producer, or leaves its side alone but for an item taken. -/
theorem move_cases (hm : s.move m = some t) :
    m = .produce ∧ s.handoff.Advance t.handoff ∨ m ≠ .produce ∧ s.handoff.Attended t.handoff := by
  cases m with
  | produce =>
    obtain ⟨handoff, ha, rfl⟩ := Option.map_eq_some_iff.mp hm
    exact .inl ⟨rfl, Handoff.advance_inv ha⟩
  | read => exact .inr ⟨by simp, (proceed_inv hm).attended⟩
  | call call =>
    simp only [move] at hm
    split at hm
    · cases hm
      cases call <;> exact .inr ⟨by simp, Handoff.attended_rfl⟩
    · cases hm
  | cancelToken =>
    cases hm
    exact .inr ⟨by simp, Handoff.attended_of_producer_eq rfl rfl id fun _ => rfl⟩

/-- Once the reader is dropped and the producer has ended, there is only the token left to cancel. -/
theorem eq_cancelToken_of_gone (gone : s.reader = .gone) (ended : s.handoff.producer.isOver = true)
    (hm : s.move m = some t) : m = .cancelToken := by
  cases m with
  | produce =>
    obtain ⟨handoff, ha, -⟩ := Option.map_eq_some_iff.mp hm
    rw [(Handoff.advance_inv ha).running] at ended
    cases ended
  | read =>
    rw [show s.move .read = none from proceed_eq_none (by simp [gone, Reader.IsBusy])] at hm
    cases hm
  | call call => simp [move, gone] at hm
  | cancelToken => rfl

/-! ### Runs -/

/-- What each allowed move keeps, while it pays for the moves counted, a run of such moves keeps and pays
for. -/
theorem run_keeps (allowed : Move → Prop) (kept : Session α → Prop) (funds : Session α → Nat)
    (counted : Move → Bool)
    (step : ∀ {s t : Session α} {m : Move}, allowed m → kept s → s.move m = some t →
      kept t ∧ funds t + (if counted m then 1 else 0) ≤ funds s)
    (all : ∀ m ∈ moves, allowed m) (h : kept s) (hr : s.run moves = some t) :
    kept t ∧ funds t + moves.countP counted ≤ funds s := by
  induction moves generalizing s with
  | nil =>
    cases hr
    exact ⟨h, Nat.le_refl _⟩
  | cons m moves ih =>
    obtain ⟨u, hu, hr⟩ := Option.bind_eq_some_iff.mp hr
    obtain ⟨keptu, first⟩ := step (all m List.mem_cons_self) h hu
    obtain ⟨keptt, rest⟩ := ih (fun m hm => all m (List.mem_cons_of_mem _ hm)) keptu hr
    refine ⟨keptt, ?_⟩
    rw [List.countP_cons]
    omega

/-- Once the token is cancelled it stays so, and the cursor is polled at most once more. -/
theorem polls_le_of_cancelled (stop : s.handoff.cancelled = true) (hr : s.run moves = some t) :
    t.handoff.cancelled = true ∧ t.handoff.polls ≤ s.handoff.polls + 1 := by
  have kept := run_keeps (fun _ => True) (fun s => s.handoff.cancelled = true)
    (fun s => s.handoff.polls + s.handoff.producer.pollsLeft) (fun _ => false)
    (fun {s t m} _ stop hm => by
      rcases move_cases hm with ⟨-, ha⟩ | ⟨-, ha⟩
      · exact ⟨ha.cancelled_eq.trans stop, ha.polls_add_le stop⟩
      · refine ⟨ha.stop stop, ?_⟩
        rcases ha.producer with same | ⟨-, taken⟩
        · rw [same, ha.polls]
          exact Nat.le_refl _
        · rw [taken, ha.polls]
          exact Nat.le_add_right _ _)
    (fun _ _ => trivial) stop hr
  have left := s.handoff.producer.pollsLeft_le
  have funds := kept.2
  exact ⟨kept.1, by omega⟩

/-- A producer to whom nobody listens goes on to its end. -/
theorem produces_le_of_deaf (deaf : s.handoff.listening = false) (hr : s.run moves = some t) :
    moves.count .produce + t.handoff.producer.work ≤ s.handoff.producer.work ∧
      (t.handoff.producer.isOver = true ∨ (t.move .produce).isSome = true) := by
  have kept := run_keeps (fun _ => True) (fun s => s.handoff.listening = false)
    (fun s => s.handoff.producer.work) (· == .produce)
    (fun {s t m} _ deaf hm => by
      rcases move_cases hm with ⟨rfl, ha⟩ | ⟨other, ha⟩
      · exact ⟨ha.listening_eq.trans deaf, ha.work_lt⟩
      · refine ⟨ha.deaf deaf, ?_⟩
        rcases ha.producer with same | ⟨ears, -⟩
        · rw [same, if_neg (by simpa using other)]
          exact Nat.le_refl _
        · rw [deaf] at ears
          cases ears)
    (fun _ _ => trivial) deaf hr
  refine ⟨?_, ?_⟩
  · rw [Nat.add_comm]
    exact kept.2
  · cases ended : t.handoff.producer.isOver with
    | true => exact .inl rfl
    | false =>
      refine .inr ?_
      simpa [move] using Handoff.advance_isSome ended fun _ _ => kept.1

/-- Without a new call the two parties can make few steps, also while the token is cancelled. -/
theorem steps_le (all : ∀ m ∈ moves, m.IsNoCall) (hr : s.run moves = some t) :
    moves.countP (fun m => decide m.IsInner) + t.work ≤ s.work := by
  have kept := run_keeps Move.IsNoCall (fun _ => True) work (fun m => decide m.IsInner)
    (fun {s t m} noCall _ hm => by
      refine ⟨trivial, ?_⟩
      cases m with
      | produce => exact work_lt (.inl rfl) hm
      | read => exact work_lt (.inr rfl) hm
      | call call => exact absurd rfl (noCall call)
      | cancelToken =>
        cases hm
        exact Nat.le_refl _)
    all trivial hr
  rw [Nat.add_comm]
  exact kept.2

/-- A call can be brought to its end. -/
theorem Reachable.exists_return (h : Reachable cursor isEnd s) :
    ∃ moves t, (∀ m ∈ moves, m.IsInner) ∧ s.run moves = some t ∧ ¬t.reader.IsBusy := by
  generalize bound : s.work = n
  induction n using Nat.strongRecOn generalizing s with
  | ind n ih =>
    by_cases busy : s.reader.IsBusy
    · obtain ⟨m, inner, some⟩ := h.inv.exists_move busy
      obtain ⟨u, hu⟩ := Option.isSome_iff_exists.mp some
      have less := work_lt inner hu
      obtain ⟨moves, t, all, hr, done⟩ := ih u.work (bound ▸ less) (h.step m hu) rfl
      refine ⟨m :: moves, t, ?_, ?_, done⟩
      · exact List.forall_mem_cons.mpr ⟨inner, all⟩
      · exact Option.bind_eq_some_iff.mpr ⟨u, hu, hr⟩
    · exact ⟨[], s, fun _ => (absurd · List.not_mem_nil), rfl, busy⟩

/-! ### Calls that end the traversal -/

/-- A call begun in `s` has returned, after the producer's end. -/
structure Ended (call : Call) (s t : Session α) : Prop where
  reader : t.reader = (s.close call).reader
  replies : t.replies = (s.close call).replies
  joined : t.handoff.joined = true
  cancelled : t.handoff.cancelled = true

/-- How far a call that ends the traversal has come since it began in `s`. -/
inductive Winds (call : Call) (s t : Session α) : Prop where
  | ask (stage : t.reader = .asking) (same : t.replies = s.replies) (next : call = .next)
      (stop : t.handoff.cancelled = true)
  | stop (stage : t.reader = .stopping call) (same : t.replies = s.replies)
  | leave (stage : t.reader = .leaving call) (same : t.replies = s.replies)
      (stop : t.handoff.cancelled = true)
  | join (stage : t.reader = .joining call) (same : t.replies = s.replies)
      (stop : t.handoff.cancelled = true)
  | done (ended : Ended call s t)

variable {call : Call}

theorem Ended.not_busy (h : Ended call s t) : ¬t.reader.IsBusy := by
  rw [h.reader]
  exact close_not_busy s call

theorem winds_begin (next : call = .next → s.handoff.cancelled = true)
    (drop : call = .drop → s.handoff.joined = false) : Winds call s (s.begin call) := by
  cases call with
  | next => exact .ask rfl rfl rfl (next rfl)
  | cancel => exact .stop rfl rfl
  | drop => exact .stop (by simp [begin, drop rfl]) rfl

theorem Winds.produce {h' : Handoff α} (hw : Winds call s t) (orderly : t.handoff.Orderly)
    (ha : t.handoff.Advance h') : Winds call s { t with handoff := h' } := by
  cases hw with
  | ask stage same next stop => exact .ask stage same next (ha.cancelled_eq.trans stop)
  | stop stage same => exact .stop stage same
  | leave stage same stop => exact .leave stage same (ha.cancelled_eq.trans stop)
  | join stage same stop => exact .join stage same (ha.cancelled_eq.trans stop)
  | done ended =>
    have joined := ended.joined
    rw [orderly.not_joined ha.running] at joined
    cases joined

theorem Winds.cancelToken (hw : Winds call s t) :
    Winds call s { t with handoff := t.handoff.cancelToken } := by
  cases hw with
  | ask stage same next stop => exact .ask stage same next rfl
  | stop stage same => exact .stop stage same
  | leave stage same stop => exact .leave stage same rfl
  | join stage same stop => exact .join stage same rfl
  | done ended => exact .done ⟨ended.reader, ended.replies, ended.joined, rfl⟩

theorem Winds.read (hw : Winds call s t) (hi : Inv cursor isEnd t) (hp : t.proceed = some u) :
    Winds call s u := by
  cases hw with
  | ask stage same next stop =>
    simp only [Session.proceed, stage, stop, if_true] at hp
    cases hp
    exact .leave (by rw [next]) same stop
  | stop stage same =>
    simp only [Session.proceed, stage] at hp
    cases hp
    exact .leave rfl same rfl
  | leave stage same stop =>
    simp only [Session.proceed, stage] at hp
    cases hp
    exact .join rfl same stop
  | join stage same stop =>
    simp only [Session.proceed, stage] at hp
    obtain ⟨handoff, met, rfl⟩ := Option.map_eq_some_iff.mp hp
    obtain ⟨-, joined, -, token⟩ := hi.join stage met
    refine .done ⟨?_, ?_, ?_, ?_⟩
    · cases call <;> rfl
    · cases call <;> simp only [close, reply, same]
    · rw [close_handoff]
      exact joined
    · rw [close_handoff]
      exact token.trans stop
  | done ended =>
    rw [proceed_eq_none ended.not_busy] at hp
    cases hp

theorem Winds.step (hw : Winds call s t) (hi : Inv cursor isEnd t) (noCall : m.IsNoCall)
    (hm : t.move m = some u) : Winds call s u := by
  cases m with
  | produce =>
    obtain ⟨handoff, ha, rfl⟩ := Option.map_eq_some_iff.mp hm
    exact hw.produce hi.orderly (Handoff.advance_inv ha)
  | read => exact hw.read hi hm
  | call call => exact absurd rfl (noCall call)
  | cancelToken =>
    cases hm
    exact hw.cancelToken

/-- A call that ends the traversal is still under way, or the traversal is ended. -/
theorem busy_or_ended (h : Reachable cursor isEnd s) (idle : s.reader = .idle)
    (next : call = .next → s.handoff.cancelled = true) (drop : call = .drop → s.handoff.joined = false)
    (all : ∀ m ∈ moves, m.IsNoCall) (hr : s.run (.call call :: moves) = some t) :
    t.reader.IsBusy ∨ Ended call s t := by
  obtain ⟨u, hu, hr⟩ := Option.bind_eq_some_iff.mp hr
  obtain rfl : s.begin call = u := by simpa [move, idle] using hu
  have kept := run_keeps Move.IsNoCall (fun t => Reachable cursor isEnd t ∧ Winds call s t)
    (fun _ => 0) (fun _ => false)
    (fun {t u m} noCall kept hm =>
      ⟨⟨kept.1.step m hm, kept.2.step kept.1.inv noCall hm⟩, Nat.le_refl _⟩)
    all ⟨h.step _ hu, winds_begin next drop⟩ hr
  cases kept.1.2 with
  | ask stage | stop stage | leave stage | join stage =>
    refine .inl ?_
    rw [stage]
    simp [Reader.IsBusy]
  | done ended => exact .inr ended

/-! ### Release -/

/-- What holds of a reader that gives up, and of its producer. -/
structure Releases (cursor : Cursor α) (isEnd : α → Bool) (s : Session α) : Prop where
  /-- The producer is at most one item ahead of the reader. -/
  ahead : s.handoff.polls ≤ s.received.length + 1
  /-- The token stays cancelled, and the cursor is polled at most once more. -/
  stops : s.handoff.cancelled = true → ∀ moves t, s.run moves = some t →
    t.handoff.cancelled = true ∧ t.handoff.polls ≤ s.handoff.polls + 1
  /-- A reader inside a call is not stuck: it can move, or the producer for which it waits can. -/
  moves : s.reader.IsBusy → ∃ m : Move, m.IsInner ∧ (s.move m).isSome = true
  /-- Once the reader has hung up, the producer makes at most five more steps, and it can make the next
  one until it has ended. -/
  ends : s.handoff.listening = false → ∀ moves t, s.run moves = some t →
    moves.count .produce ≤ 5 ∧ (t.handoff.producer.isOver = true ∨ (t.move .produce).isSome = true)
  /-- However the parties take turns, a call returns after a few turns. -/
  soon : ∀ moves t, (∀ m ∈ moves, m.IsNoCall) → s.run moves = some t →
    moves.countP (fun m => decide m.IsInner) ≤ 12
  returns : ∃ moves t, (∀ m ∈ moves, m.IsInner) ∧ s.run moves = some t ∧ ¬t.reader.IsBusy
  /-- When a reader that cancels, is dropped before it has waited for the producer's end, or asks for an item
  of a cancelled traversal comes back from that call, the producer has released the cursor and the token is
  cancelled. -/
  released : ∀ call moves t, s.reader = .idle → (call = .next → s.handoff.cancelled = true) →
    (call = .drop → s.handoff.joined = false) → (∀ m ∈ moves, m.IsNoCall) →
    s.run (.call call :: moves) = some t →
    t.reader.IsBusy ∨ Ended call s t ∧ t.handoff.producer.isOver = true
  /-- A reader that has waited for the producer's end is dropped at once. The cursor has been released
  before, the token stays as it is, and nobody moves any more but to cancel it. -/
  dropped : s.reader = .idle → s.handoff.joined = true →
    s.run [.call .drop] = some { s with reader := .gone } ∧ s.handoff.producer.isOver = true ∧
      ∀ m t, Session.move { s with reader := .gone } m = some t → m = .cancelToken

/-- Every interleaving lets a reader give up, without a hang and without a producer left behind. -/
theorem releases_when_given_up (h : Reachable cursor isEnd s) : Releases cursor isEnd s where
  ahead := h.inv.stands.polls_le
  stops stop moves t hr := polls_le_of_cancelled stop hr
  moves := h.inv.exists_move
  ends deaf moves t hr := by
    obtain ⟨few, going⟩ := produces_le_of_deaf deaf hr
    have := s.handoff.producer.work_le
    exact ⟨by omega, going⟩
  soon moves t all hr := by
    have := steps_le all hr
    have := s.work_le
    omega
  returns := h.exists_return
  released call moves t idle next drop all hr := by
    rcases busy_or_ended h idle next drop all hr with busy | ended
    · exact .inl busy
    · exact .inr ⟨ended, ((h.run _ hr).inv.orderly.joined ended.joined).2⟩
  dropped idle joined := by
    have ended := (h.inv.orderly.joined joined).2
    refine ⟨?_, ended, fun m t => eq_cancelToken_of_gone (s := { s with reader := .gone }) rfl ended⟩
    simp [run, move, begin, idle, joined]

/-- A reader of an endless cursor takes one item and cancels while the producer offers the next. -/
theorem releases_endless_cursor :
    ∃ s, Reachable (fun n => .ok n) (fun _ : Nat => false) s ∧ s.received = [0] ∧
      s.replies = [.next (some 0), .cancelled] ∧ s.handoff.polls = 2 ∧ s.handoff.producer = .ended ∧
      Releases (fun n => .ok n) (fun _ : Nat => false) s :=
  have started : Reachable (fun n => .ok n) (fun _ : Nat => false) _ := .start
  have reached := started.run [.call .next, .read, .produce, .produce, .produce, .read, .produce,
    .produce, .produce, .produce, .call .cancel, .read, .read, .produce, .read] rfl
  ⟨_, reached, rfl, rfl, rfl, rfl, releases_when_given_up reached⟩

/-- A reader that has read to the end is dropped, and nobody has cancelled the token afterwards. -/
theorem token_not_cancelled_by_drop_after_end :
    ∃ s t, Reachable (fun n => .ok (if n = 0 then 7 else 0)) (fun n : Nat => n == 0) s ∧
      s.replies = [.next (some 7), .next none] ∧ s.reader = .idle ∧
      s.run [.call .drop] = some t ∧ t.reader = .gone ∧ t.handoff.producer = .ended ∧
      t.handoff.cancelled = false :=
  have started : Reachable (fun n => .ok (if n = 0 then 7 else 0)) (fun n : Nat => n == 0) _ := .start
  have reached := started.run [.call .next, .read, .produce, .produce, .produce, .read, .produce,
    .call .next, .read, .produce, .produce, .read, .read, .read] rfl
  ⟨_, _, reached, rfl, rfl, rfl, rfl, rfl, rfl⟩

end Session

end MacAgent
