import MacAgent.Proofs.Cursor.Invariant

/-! # Every call returns

`Session.work` bounds the steps that the two parties can still make without a new call: each step
lowers it. A reader inside a call is never stuck, so its call returns, however the steps of the two
parties interleave. -/

namespace MacAgent

/-- How many steps a producer at this stage can make before it waits or ends. -/
def Producer.work {α : Type} : Producer α → Nat
  | ended | crashed => 0
  | offering _ => 1
  | holding _ => 2
  | polling => 3
  | start => 4
  | handed => 5

/-- A bound on the steps of a reader at this stage; it covers the lap that the producer makes after
its item is taken. -/
def Reader.work : Reader → Nat
  | idle | gone => 0
  | joining _ => 1
  | leaving _ => 2
  | stopping _ => 3
  | waiting => 6
  | asking => 7

theorem Producer.work_le {α : Type} (p : Producer α) : p.work ≤ 5 := by cases p <;> simp [work]

theorem Reader.work_le (r : Reader) : r.work ≤ 7 := by cases r <;> simp [work]

namespace Handoff

variable {α : Type} {h h' : Handoff α}

theorem Advance.work_lt (ha : h.Advance h') : h'.producer.work < h.producer.work := by
  cases ha <;> simp [Producer.work, *]

/-- The producer moves unless it has ended or offers an item to a reader that listens. -/
theorem advance_isSome (running : h.producer.isOver = false)
    (deaf : ∀ item, h.producer = .offering item → h.listening = false) : h.advance.isSome = true := by
  unfold advance
  cases stage : h.producer with
  | start => rfl
  | polling =>
    simp only [Nat.add_sub_cancel]
    cases h.cursor h.polls <;> rfl
  | holding item => rfl
  | offering item => simp [deaf item stage]
  | handed => rfl
  | ended => simp [stage, Producer.isOver] at running
  | crashed => simp [stage, Producer.isOver] at running

/-- Waiting for the producer succeeds once it is ended. -/
theorem join?_isSome (ended : h.producer.isOver = true) : h.join?.isSome = true := by
  unfold join?
  by_cases joined : h.joined = true
  · rw [if_pos joined]
    rfl
  · rw [if_neg joined]
    unfold Producer.isOver at ended
    split at ended
    · rename_i stage
      simp [stage]
    · rename_i stage
      simp [stage]
    · cases ended

end Handoff

/-- Whether a move is a step of one of the two parties, and no new call. -/
def Move.IsInner (m : Move) : Prop := m = .produce ∨ m = .read

instance (m : Move) : Decidable m.IsInner := inferInstanceAs (Decidable (_ ∨ _))

namespace Session

variable {α : Type} {cursor : Cursor α} {isEnd : α → Bool} {s t : Session α}

/-- A bound on the steps that are possible without a new call. -/
def work (s : Session α) : Nat := s.handoff.producer.work + s.reader.work

theorem work_le (s : Session α) : s.work ≤ 12 :=
  Nat.add_le_add s.handoff.producer.work_le s.reader.work_le

theorem Proceed.work_lt (hp : s.Proceed t) : t.work < s.work := by
  cases hp with
  | notice stage => simp [work, stage, Reader.work]
  | listen stage => simp [work, stage, Reader.work]
  | revoke stage => simp [work, reply, stage, Reader.work]
  | take item stage ears offer => simp [work, reply, stage, offer, Reader.work, Producer.work]
  | miss stage => simp [work, stage, Reader.work]
  | stop call stage => simp [work, stage, Reader.work, Handoff.cancelToken]
  | hangUp call stage => simp [work, stage, Reader.work, Handoff.hangUp]
  | join call handoff stage joined =>
    have same : handoff.producer = s.handoff.producer := by
      rcases Handoff.join?_eq_some joined with ⟨-, rfl⟩ | ⟨-, -, rfl⟩ | ⟨-, -, rfl⟩ <;> rfl
    cases call <;> simp [work, close, reply, same, stage, Reader.work]

theorem work_lt {m : Move} (inner : m.IsInner) (hm : s.move m = some t) : t.work < s.work := by
  rcases inner with rfl | rfl
  · obtain ⟨handoff, ha, rfl⟩ := Option.map_eq_some_iff.mp hm
    exact Nat.add_lt_add_right (Handoff.advance_inv ha).work_lt _
  · exact (proceed_inv hm).work_lt

/-- However the two parties take turns, there are few turns without a new call. -/
theorem length_add_work_le {moves : List Move} (inner : ∀ m ∈ moves, m.IsInner)
    (hr : s.run moves = some t) : moves.length + t.work ≤ s.work := by
  induction moves generalizing s with
  | nil =>
    cases hr
    exact Nat.le_of_eq (Nat.zero_add _)
  | cons m moves ih =>
    obtain ⟨u, hu, hr⟩ := Option.bind_eq_some_iff.mp hr
    have rest := ih (fun m hm => inner m (List.mem_cons_of_mem _ hm)) hr
    have step := work_lt (inner m List.mem_cons_self) hu
    rw [List.length_cons]
    omega

/-- A reader inside a call is not stuck: it can move, or the producer for which it waits can. -/
theorem Inv.exists_move (hi : Inv cursor isEnd s) (busy : s.reader.IsBusy) :
    ∃ m, m.IsInner ∧ (s.move m).isSome = true := by
  have attends := hi.attends
  unfold Attends at attends
  have produce : s.handoff.advance.isSome = true → ∃ m, m.IsInner ∧ (s.move m).isSome = true :=
    fun h => ⟨.produce, .inl rfl, by simpa [move] using h⟩
  have read : s.proceed.isSome = true → ∃ m, m.IsInner ∧ (s.move m).isSome = true :=
    fun h => ⟨.read, .inr rfl, h⟩
  cases stage : s.reader with
  | idle => exact absurd stage busy.1
  | asking =>
    refine read ?_
    simp only [Session.proceed, stage]
    split
    · rfl
    · split <;> rfl
  | waiting =>
    simp only [stage] at attends
    cases running : s.handoff.producer.isOver with
    | true =>
      refine read ?_
      simp only [Session.proceed, stage, running, if_true]
      split <;> rfl
    | false =>
      by_cases offer : ∃ item, s.handoff.producer = .offering item
      · obtain ⟨item, offer⟩ := offer
        refine read ?_
        simp [Session.proceed, stage, Handoff.receive?, offer, attends]
      · exact produce (Handoff.advance_isSome running fun item h => absurd ⟨item, h⟩ offer)
  | stopping call => exact read (by simp [Session.proceed, stage])
  | leaving call => exact read (by simp [Session.proceed, stage])
  | joining call =>
    simp only [stage] at attends
    cases running : s.handoff.producer.isOver with
    | true =>
      refine read ?_
      simpa only [Session.proceed, stage, Option.isSome_map] using Handoff.join?_isSome running
    | false => exact produce (Handoff.advance_isSome running fun _ _ => attends.1)
  | gone => exact absurd stage busy.2

end Session

end MacAgent
