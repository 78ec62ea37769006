import MacAgent.Agent.Batch
import MacAgent.Plane.Recorded
import MacAgent.Proofs.Plane.Asked

/-! # Which requests a computation sends, in which order

Some computations are known by the list of their requests. Whatever the plane answers, they go down the
list from its front, and a run that does not come to the end of it fails. -/

namespace MacAgent

variable {σ α β : Type} {plane : Plane σ} {r : Request} {requests requests' : List Request}

/-- Every run of `act` sends requests from the front of the list, and all of them unless it fails. -/
def Sends (requests : List Request) (act : PlaneM (Recorded σ) α) : Prop :=
  ∀ s, ∃ calls, (act.run.run s).2.exchanges = s.exchanges ++ calls ∧
    calls.map (·.request) <+: requests ∧ ∀ a, (act.run.run s).1 = .ok a → calls.map (·.request) = requests

namespace Sends

theorem of_same {act : PlaneM (Recorded σ) α} (h : ∀ s, (act.run.run s).2.exchanges = s.exchanges) :
    Sends [] act := fun s => ⟨[], (h s).trans (List.append_nil _).symm, List.nil_prefix, fun _ _ => rfl⟩

theorem pure (a : α) : Sends [] (pure a : PlaneM (Recorded σ) α) := of_same fun _ => rfl

theorem bind {act : PlaneM (Recorded σ) α} {f : α → PlaneM (Recorded σ) β} (h : Sends requests act)
    (hf : ∀ a, Sends requests' (f a)) : Sends (requests ++ requests') (act >>= f) := by
  intro s
  obtain ⟨calls, sent, first, all⟩ := h s
  rw [run_bind]
  rcases run : act.run.run s with ⟨fault | a, t⟩ <;> rw [run] at sent all
  · exact ⟨calls, sent, first.trans (List.prefix_append _ _), nofun⟩
  · obtain ⟨calls', sent', first', all'⟩ := hf a t
    refine ⟨calls ++ calls', by rw [sent', sent, List.append_assoc], ?_, fun b ended => ?_⟩
    · rw [List.map_append, all a rfl]
      exact (List.prefix_append_right_inj _).mpr first'
    · rw [List.map_append, all a rfl, all' b ended]

theorem onFault {act : PlaneM (Recorded σ) α} {change : Recorded σ → Recorded σ} (h : Sends requests act)
    (unseen : ∀ s, (change s).exchanges = s.exchanges) : Sends requests (onFault act change) := by
  intro s
  obtain ⟨calls, sent, first, all⟩ := h s
  obtain ⟨result, same⟩ := onFault_unseen unseen act s
  exact ⟨calls, same.trans sent, first, fun a done => all a (result.symm.trans done)⟩

theorem foldlM {f : β → α → PlaneM (Recorded σ) β} {request : α → Request} (h : ∀ b a, Sends [request a] (f b a))
    (l : List α) (b : β) : Sends (l.map request) (l.foldlM f b) := by
  induction l generalizing b with
  | nil => exact pure b
  | cons a l ih =>
    rw [List.foldlM_cons, List.map_cons]
    exact (h b a).bind ih

theorem call_sends (plane : Plane σ) (r : Request) (s : Recorded σ) : ∃ x : Exchange, x.request = r ∧
    ((plane.recorded.call r).run.run s).2.exchanges = s.exchanges ++ [x] :=
  ⟨⟨r, (plane.answer r s.plane).1⟩, rfl, rfl⟩

/-- A step of a batch sends its one request, and goes on after a failure. -/
theorem batchStep {change : PlaneM (Recorded σ) Unit}
    (one : ∀ s, ∃ x : Exchange, x.request = r ∧ (change.run.run s).2.exchanges = s.exchanges ++ [x]) (k : Key)
    (report : Report) : Sends [r] (batchStep change k report) := by
  intro s
  obtain ⟨x, rfl, sent⟩ := one s
  refine ⟨[x], ?_, List.prefix_rfl, fun _ _ => rfl⟩
  unfold MacAgent.batchStep
  rw [run_bind, run_attempt]
  rcases run : change.run.run s with ⟨fault | _, t⟩ <;> rw [run] at sent
  · dsimp only
    split
    · exact sent
    · exact sent
  · exact sent

theorem traverse [Inhabited α] {bridge : Bridge} {source : Source} {isEnd : α → Bool}
    (ending : isEnd default = true) {items : List α} {act : β → α → PlaneM (Recorded σ) β} {request : α → Request}
    (h : ∀ b a, Sends [request a] (act b a)) (acc : β) :
    Sends ((items.takeWhile (!isEnd ·)).map request)
      (plane.recorded.traverse bridge source isEnd items act acc) := by
  have polled (n : Nat) : Sends [] (modify (plane.recorded.polled source n) : PlaneM (Recorded σ) PUnit) :=
    of_same fun s => Recorded.polled_exchanges plane source n s
  have asked : Sends [] (get : PlaneM (Recorded σ) (Recorded σ)) := of_same fun _ => rfl
  refine plane.recorded.traverse_induction (motive := fun _ items act => Sends (items.map request) act) ending
    ?_ ?_ acc
  · exact fun acc polls => asked.bind fun s => (polled (polls s)).bind fun _ => pure acc
  · exact fun acc item rest polls dropped next hnext =>
      asked.bind fun s => (polled (polls s)).bind fun _ =>
        ((h acc item).onFault fun t => Recorded.polled_exchanges plane source (dropped s t) t).bind (hnext s)

theorem bindAll (plane : Plane σ) (bindings : List (Key × Interface)) :
    Sends (bindings.map fun b => .install (.unicast b.1 b.2)) (plane.recorded.bindAll bindings) := by
  have step (report : Report) (b : Key × Interface) : Sends [.install (.unicast b.1 b.2)]
      (MacAgent.batchStep (plane.recorded.bind b.1 b.2) b.1 report) :=
    batchStep (call_sends plane (.install (.unicast b.1 b.2))) b.1 report
  exact foldlM step bindings {}

theorem deleteAll (plane : Plane σ) (bridge : Bridge) (keys : List Key) :
    Sends ((keys.takeWhile (!·.isEmpty)).map .delete)
      (plane.recorded.traverse bridge .table Key.isEmpty keys
        (fun report k => MacAgent.batchStep (plane.recorded.delete k) k report) {}) :=
  traverse rfl (fun report k => batchStep (call_sends plane (.delete k)) k report) {}

end Sends

end MacAgent
