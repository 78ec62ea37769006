import MacAgent.Proofs.Agent.Frame
import MacAgent.Proofs.Memory.Held

/-! # The status replays the writes

The board keeps every value that was ever published, and under each key the one published last. Nothing but
a publication changes either, so the status can be told from the list of the writes. -/

namespace MacAgent

namespace Board

variable {b b' b'' : Board} {writes : List (String × String)}

def lastWrite? (writes : List (String × String)) (key : String) : Option String :=
  (writes.reverse.find? (·.1 = key)).map (·.2)

theorem lastWrite?_concat (writes : List (String × String)) (key value key' : String) :
    lastWrite? (writes ++ [(key, value)]) key' = if key = key' then some value else lastWrite? writes key' := by
  unfold lastWrite?
  rw [List.reverse_append, List.reverse_singleton, List.singleton_append, List.find?_cons]
  by_cases same : key = key'
  · simp [same]
  · simp [same]

def IsReplay (b : Board) : Prop := ∀ key : String, b.status[key]? = lastWrite? b.writes key

/-- What a board may become by what is done to it, one thing after another. -/
inductive Leads (b : Board) : Board → Prop where
  | refl : Leads b b
  | setOption {b' : Board} (key value : String) : Leads b b' → Leads b (b'.setOption key value)
  | publish {b' : Board} (key value : String) : Leads b b' → Leads b (b'.publish key value)
  | acknowledge {b' : Board} (complete : Bool) : Leads b b' → Leads b (b'.acknowledge complete)
  | disconnect {b' : Board} : Leads b b' → Leads b b'.disconnect

theorem Leads.trans (h : b.Leads b') (h' : b'.Leads b'') : b.Leads b'' := by
  induction h' with
  | refl => exact h
  | setOption key value _ ih => exact ih.setOption key value
  | publish key value _ ih => exact ih.publish key value
  | acknowledge complete _ ih => exact ih.acknowledge complete
  | disconnect _ ih => exact ih.disconnect

theorem IsReplay.leads (h : b.IsReplay) (leads : b.Leads b') : b'.IsReplay := by
  induction leads with
  | refl => exact h
  | setOption | disconnect => assumption
  | acknowledge complete _ ih =>
    cases complete with
    | true | false => exact ih
  | @publish b' key value _ ih =>
    intro key'
    rw [publish_status, ih key']
    exact (lastWrite?_concat b'.writes key value key').symm

theorem ofOptions_isReplay (options : List (String × String)) : (ofOptions options).IsReplay :=
  List.foldlRecOn (motive := IsReplay) options _ (fun key => by simp [lastWrite?]) fun _ h _ _ => h

end Board

namespace Memory

def Goes (m m' : Memory) : Prop := m.board.Leads m'.board

instance : IsPreorder Memory Goes where
  refl _ := .refl
  trans _ _ _ := .trans

theorem heeds_goes (P : Request → Prop) : plane.Heeds P Goes := by
  refine heeds_of_serve fun r _ m => ?_
  have same {b : Board} (h : b = m.board) : m.board.Leads b := h ▸ .refl
  cases r with
  | publish key value => exact .publish key value .refl
  | acknowledge complete => exact .acknowledge complete .refl
  | install e => exact same (m.updateTable_board (m.table.install e))
  | delete k => exact same (m.updateTable_board (m.table.delete k))
  | option | optionValues | status | keys | lookup | watch => exact .refl

end Memory

namespace Agent

variable {σ : Type} {plane : Plane σ} {memory : σ → Memory} {collect : σ → List Event × σ} {s : AgentState σ}

/-- The states of an agent whose plane holds a board that started without a status. -/
inductive Runs (plane : Plane σ) (memory : σ → Memory) : AgentState σ → Prop where
  | start (s : AgentState σ) (options : List (String × String)) :
      (memory s.plane).board = .ofOptions options → Runs plane memory s
  | handled {s : AgentState σ} (e : Event) : Runs plane memory s → Runs plane memory ((handle plane e).run.run s).2
  /-- Another party uses the board, or the agent is replaced. -/
  | elsewhere {s : AgentState σ} (t : AgentState σ) : (memory s.plane).board.Leads (memory t.plane).board →
      Runs plane memory s → Runs plane memory t

theorem Runs.isReplay (h : plane.Holds memory collect) (runs : Runs plane memory s) :
    (memory s.plane).board.IsReplay := by
  induction runs with
  | start s options board =>
    rw [board]
    exact Board.ofOptions_isReplay options
  | @handled s e _ ih => exact ih.leads (keeps_handle (h.heeds (Memory.heeds_goes _)) e s).2
  | elsewhere t leads _ ih => exact ih.leads leads

end Agent

end MacAgent
