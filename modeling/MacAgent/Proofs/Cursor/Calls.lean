import MacAgent.Proofs.Cursor.Delivery

/-! # The calls of a handoff are runs of a session

`Handoff.next`, `Handoff.cancel` and `Handoff.release` make the reader's steps of a call and give the
producer its turns in between. Each leads from a session between two calls to another one, so what
holds of all sessions holds of them. -/

namespace MacAgent

namespace Handoff

variable {α : Type} {h : Handoff α}

theorem advanceBy_stuck {n : Nat} (hn : h.producer.work ≤ n) : (h.advanceBy n).advance = none := by
  induction n generalizing h with
  | zero =>
    cases ha : h.advance with
    | none => exact ha
    | some h' =>
      have := (advance_inv ha).work_lt
      omega
  | succ n ih =>
    unfold advanceBy
    cases ha : h.advance with
    | none => exact ha
    | some h' =>
      have := (advance_inv ha).work_lt
      exact ih (by omega)

/-- A producer that has settled has ended, or offers an item to a reader that listens. -/
theorem settle_stuck (h : Handoff α) : h.settle.producer.isOver = true ∨
    ∃ item, h.settle.producer = .offering item ∧ h.settle.listening = true := by
  have stuck : h.settle.advance = none :=
    advanceBy_stuck (Nat.le_trans h.producer.work_le (by decide))
  cases ended : h.settle.producer.isOver with
  | true => exact .inl rfl
  | false =>
    refine .inr (Classical.byContradiction fun hne => ?_)
    have := advance_isSome ended fun item offer =>
      Bool.eq_false_iff.mpr fun ears => hne ⟨item, offer, ears⟩
    rw [stuck] at this
    cases this

theorem advanceBy_listening (h : Handoff α) (n : Nat) : (h.advanceBy n).listening = h.listening := by
  induction n generalizing h with
  | zero => rfl
  | succ n ih =>
    unfold advanceBy
    cases ha : h.advance with
    | none => rfl
    | some h' => exact (ih h').trans (advance_inv ha).listening_eq

theorem advanceBy_cancelled (h : Handoff α) (n : Nat) : (h.advanceBy n).cancelled = h.cancelled := by
  induction n generalizing h with
  | zero => rfl
  | succ n ih =>
    unfold advanceBy
    cases ha : h.advance with
    | none => rfl
    | some h' => exact (ih h').trans (advance_inv ha).cancelled_eq

end Handoff

namespace Session

variable {α : Type} {cursor : Cursor α} {isEnd : α → Bool} {s : Session α}

theorem Reachable.advanceBy (h : Reachable cursor isEnd s) (n : Nat) :
    Reachable cursor isEnd { s with handoff := s.handoff.advanceBy n } := by
  induction n generalizing s with
  | zero => exact h
  | succ n ih =>
    unfold Handoff.advanceBy
    cases ha : s.handoff.advance with
    | none => exact h
    | some h' => exact ih (h.step .produce (congrArg (Option.map _) ha))

/-- A reader that hangs up waits until the producer has ended, and the call returns. -/
theorem Reachable.finish {call : Call} (h : Reachable cursor isEnd s) (stage : s.reader = .leaving call) :
    Reachable cursor isEnd ({ s with handoff := s.handoff.finish }.close call) := by
  have deaf : s.handoff.hangUp.settle.listening = false := Handoff.advanceBy_listening _ _
  have ended : s.handoff.hangUp.settle.producer.isOver = true := by
    rcases Handoff.settle_stuck s.handoff.hangUp with ended | ⟨item, -, ears⟩
    · exact ended
    · rw [deaf] at ears
      cases ears
  obtain ⟨h', joined⟩ := Option.isSome_iff_exists.mp (Handoff.join?_isSome ended)
  have left := h.step .read (t := { s with handoff := s.handoff.hangUp, reader := .joining call })
    (by simp [move, proceed, stage])
  have met := (left.advanceBy 6).step .read
    (t := { s with handoff := h', reader := .joining call }.close call)
    (by
      simp only [move, proceed]
      exact congrArg (Option.map _) joined)
  have done : s.handoff.finish = h' := by simp only [Handoff.finish, joined, Option.getD_some]
  rw [done]
  cases call <;> exact met

/-- A call for an item, made while the producer runs ahead by any number of steps, is a run. -/
theorem Reachable.next (h : Reachable cursor isEnd s) (idle : s.reader = .idle) (lead : Nat) :
    Reachable cursor isEnd
      ({ s with handoff := (s.handoff.next lead).2 }.reply (.next (s.handoff.next lead).1)) := by
  have asked := (h.advanceBy lead).step (.call .next)
    (t := { s with handoff := s.handoff.advanceBy lead, reader := .asking }) (by simp [move, idle, begin])
  unfold Handoff.next
  cases stop : (s.handoff.advanceBy lead).cancelled with
  | true =>
    have noticed := asked.step .read
      (t := { s with handoff := s.handoff.advanceBy lead, reader := .leaving .next })
      (by simp [move, proceed, stop])
    simpa only [stop, if_true, close, reply] using noticed.finish rfl
  | false =>
    cases ears : (s.handoff.advanceBy lead).listening with
    | false =>
      simp only [stop, ears, Bool.false_eq_true, if_false, Bool.not_false, if_true]
      exact asked.step .read (by simp [move, proceed, stop, ears, reply])
    | true =>
      have settled := (asked.step .read
        (t := { s with handoff := s.handoff.advanceBy lead, reader := .waiting })
        (by simp [move, proceed, stop, ears])).advanceBy 6
      simp only [stop, ears, Bool.false_eq_true, if_false, Bool.not_true]
      cases received : (s.handoff.advanceBy lead).settle.receive? with
      | some pair =>
        refine settled.step .read ?_
        simp only [move, proceed]
        rw [show ((s.handoff.advanceBy lead).advanceBy 6).receive? = some pair from received]
        rfl
      | none =>
        have ended : (s.handoff.advanceBy lead).settle.producer.isOver = true := by
          rcases Handoff.settle_stuck (s.handoff.advanceBy lead) with ended | ⟨item, offer, ears⟩
          · exact ended
          · simp [Handoff.receive?, offer, ears] at received
        have missed := settled.step .read
          (t := { s with handoff := (s.handoff.advanceBy lead).settle, reader := .leaving .next }) (by
            simp only [move, proceed]
            rw [show ((s.handoff.advanceBy lead).advanceBy 6).receive? = none from received]
            rw [if_pos (show ((s.handoff.advanceBy lead).advanceBy 6).producer.isOver = true from ended)]
            rfl)
        exact missed.finish rfl

theorem Reachable.cancel (h : Reachable cursor isEnd s) (idle : s.reader = .idle) :
    Reachable cursor isEnd ({ s with handoff := s.handoff.cancel }.reply .cancelled) := by
  have stopped := (h.step (.call .cancel) (t := { s with reader := .stopping .cancel })
    (by simp [move, idle, begin])).step .read
      (t := { s with handoff := s.handoff.cancelToken, reader := .leaving .cancel })
      (by simp [move, proceed])
  exact stopped.finish rfl

theorem Reachable.release (h : Reachable cursor isEnd s) (idle : s.reader = .idle) :
    Reachable cursor isEnd { s with handoff := s.handoff.release, reader := .gone } := by
  unfold Handoff.release
  cases joined : s.handoff.joined with
  | true => exact h.step (.call .drop) (by simp [move, idle, begin, joined])
  | false =>
    have stopped := (h.step (.call .drop) (t := { s with reader := .stopping .drop })
      (by simp [move, idle, begin, joined])).step .read
        (t := { s with handoff := s.handoff.cancelToken, reader := .leaving .drop })
        (by simp [move, proceed])
    exact stopped.finish rfl

end Session

end MacAgent
