import MacAgent.Proofs.Agent.Handle
import MacAgent.Proofs.Memory.Sentinel
import MacAgent.Proofs.Value.Canonical
import MacAgent.Rig.Check

/-! # The status mirrors the table

A survey publishes every entry of the table under its key. The keys are distinct and so are their printed
forms, so no value that it publishes replaces another one of its own, and none under any other key. -/

namespace MacAgent

namespace Board

variable {b : Board} {entries : List Entry} {e : Entry}

def mirror (b : Board) (entries : List Entry) : Board :=
  entries.foldl (fun b e => b.publish e.key.render e.render) b

/-- Each entry is written once, in order, and apart from the status nothing else is touched. -/
theorem mirror_eq (b : Board) (entries : List Entry) :
    b.mirror entries =
      { b with
        status := (b.mirror entries).status
        writes := b.writes ++ entries.map fun e => (e.key.render, e.render) } := by
  induction entries generalizing b with
  | nil => rw [List.map_nil, List.append_nil]; rfl
  | cons e rest ih =>
    refine (ih (b.publish e.key.render e.render)).trans ?_
    rw [List.map_cons, List.append_cons]
    rfl

theorem mirror_status_other {key : String} (other : ∀ k ∈ entries.map (·.key), key ≠ k.render) (b : Board) :
    (b.mirror entries).status[key]? = b.status[key]? := by
  induction entries generalizing b with
  | nil => rfl
  | cons e rest ih =>
    rw [List.map_cons, List.forall_mem_cons] at other
    calc (b.mirror (e :: rest)).status[key]? = (b.publish e.key.render e.render).status[key]? := ih other.2 _
      _ = b.status[key]? := by rw [publish_status, if_neg other.1.symm]

/-- No later value replaces that of an entry. -/
theorem mirror_status (distinct : (entries.map (·.key)).Nodup) (listed : e ∈ entries) (b : Board) :
    (b.mirror entries).status[e.key.render]? = some e.render := by
  induction entries generalizing b with
  | nil => cases listed
  | cons first rest ih =>
    rw [List.map_cons, List.nodup_cons] at distinct
    rcases List.mem_cons.mp listed with rfl | later
    · have other : ∀ k ∈ rest.map (·.key), e.key.render ≠ k.render := by
        rintro k present same
        rw [Key.render_inj same] at distinct
        exact distinct.1 present
      calc (b.mirror (e :: rest)).status[e.key.render]? =
            (b.publish e.key.render e.render).status[e.key.render]? := mirror_status_other other _
        _ = some e.render := by rw [publish_status, if_pos rfl]
    · exact ih distinct.2 later _

theorem expectEntries_of_status (shown : ∀ e ∈ entries, b.status[e.key.render]? = some e.render) :
    b.expectEntries entries = .ok () := by
  unfold expectEntries
  induction entries with
  | nil => rfl
  | cons e rest ih =>
    rw [List.forall_mem_cons] at shown
    have met : b.expect e.key.render e.render = .ok () := by
      unfold expect
      rw [shown.1]
      exact if_pos rfl
    show b.expect e.key.render e.render >>= (fun _ => rest.forM fun e => b.expect e.key.render e.render) = .ok ()
    rw [met]
    exact ih shown.2

end Board

namespace Memory

variable {m : Memory} {e : Entry} {entries : List Entry} (lead : Memory → Nat)

theorem run_surveyKey (table : m.table.connected = true) (board : m.board.connected = true)
    (found : m.table.find? e.key = some e) (seen : List (Key × Entry)) :
    (Plane.surveyKey { plane with lead } seen e.key).run.run m =
      (.ok (seen ++ [(e.key, e)]), { m with board := m.board.publish e.key.render e.render }) := by
  have looked : (Plane.lookup { plane with lead } e.key).run.run m = (.ok (some e), m) := by
    refine (lookup_answer table e.key).trans ?_
    rw [found]
    rfl
  have published : (Plane.publishEntry { plane with lead } e).run.run m =
      (.ok (), { m with board := m.board.publish e.key.render e.render }) :=
    answer_of_reaches (r := .publish e.key.render e.render) board
  have tried : (attempt (Plane.lookup { plane with lead } e.key)).run.run m = (.ok (.ok (some e)), m) := by
    rw [run_attempt, looked]
  exact (run_bind_ok tried).trans (run_bind_ok published)

theorem run_surveyKeys (table : m.table.connected = true) (board : m.board.connected = true)
    (found : ∀ e ∈ entries, m.table.find? e.key = some e) (seen : List (Key × Entry)) :
    ((entries.map (·.key)).foldlM (Plane.surveyKey { plane with lead }) seen).run.run m =
      (.ok (seen ++ entries.map fun e => (e.key, e)), { m with board := m.board.mirror entries }) := by
  induction entries generalizing m seen with
  | nil =>
    rw [List.map_nil, List.map_nil, List.append_nil]
    rfl
  | cons e rest ih =>
    rw [List.forall_mem_cons] at found
    have first := run_surveyKey lead table board found.1 seen
    have later := ih (m := { m with board := m.board.publish e.key.render e.render }) table board found.2
      (seen ++ [(e.key, e)])
    rw [List.map_cons, List.foldlM_cons, run_bind_ok first, later, List.append_assoc]
    rfl

theorem run_survey (table : m.table.connected = true) (board : m.board.connected = true)
    (distinct : m.table.keys.Nodup) (nonempty : Key.empty ∉ m.table.keys) (bridge : Bridge) :
    (Plane.survey { plane with lead } bridge).run.run m =
      (.ok (m.table.entries.map fun e => (e.key, e)), { m with board := m.board.mirror m.table.entries }) := by
  have read : (Plane.keys { plane with lead }).run.run m = (.ok m.table.keys, m) :=
    answer_of_reaches (r := .keys) table
  have found : ∀ e ∈ m.table.entries, m.table.find? e.key = some e :=
    fun e stored => (Table.find?_eq_some_iff distinct).mpr ⟨stored, rfl⟩
  unfold Plane.survey
  rw [run_bind_ok read, Plane.traverse_eq_foldlM (fun _ _ _ => rfl) rfl, Table.takeWhile_keys nonempty]
  exact run_surveyKeys lead table board found []

end Memory

namespace Agent

theorem run_handleOption_ok {σ : Type} (plane : Plane σ) {key value : String} {s t : AgentState σ}
    (h : (perform plane key value).run.run s = (.ok (), t)) :
    (handleOption plane key value).run.run s = (reviewOptions plane).run.run t := by
  have tried : (attempt (perform plane key value)).run.run s = (.ok (.ok ()), t) := by rw [run_attempt, h]
  exact run_bind_ok tried

variable (lead : Memory → Nat) {s : AgentState Memory}

theorem run_perform_survey (table : s.plane.table.connected = true) (board : s.plane.board.connected = true)
    (distinct : s.plane.table.keys.Nodup) (nonempty : Key.empty ∉ s.plane.table.keys) (value : String) :
    (perform { Memory.plane with lead } "mac" value).run.run s =
      (.ok (), ⟨{ s.agent with lastKeys := s.plane.table.keys },
        { s.plane with board := s.plane.board.mirror s.plane.table.entries }⟩) := by
  have surveyed := Memory.run_survey lead table board distinct nonempty s.agent.config.bridge
  have keys : (s.plane.table.entries.map fun e => (e.key, e)).map (·.1) = s.plane.table.keys := List.map_map
  rw [← keys]
  exact run_bind_ok (run_onPlane surveyed)

theorem run_reviewOptions (board : s.plane.board.connected = true) :
    (reviewOptions { Memory.plane with lead }).run.run s = (.ok (), s) := by
  have read : (Plane.optionValues { Memory.plane with lead }).run.run s.plane =
      (.ok s.plane.board.optionValues, s.plane) := Memory.answer_of_reaches (r := .optionValues) board
  have idle : (Plane.traverse { Memory.plane with lead } s.agent.config.bridge .options String.isEmpty
      s.plane.board.optionValues (fun _ _ => pure ()) ()).run.run s.plane = (.ok (), s.plane) := by
    rw [Plane.traverse_eq_foldlM (fun _ _ _ => rfl) rfl, List.foldlM_pure]
    rfl
  exact (run_bind_ok (run_onPlane read)).trans (run_onPlane idle)

/-- What a survey of the whole table leaves behind. -/
structure Mirrors (s t : AgentState Memory) : Prop where
  agent : t.agent = { s.agent with lastKeys := s.plane.table.keys }
  table : t.plane.table = s.plane.table
  outbox : t.plane.outbox = s.plane.outbox
  /-- Each entry has been written once, in the order of the table. -/
  board : t.plane.board =
    { s.plane.board with
      status := t.plane.board.status
      writes := s.plane.board.writes ++ s.plane.table.entries.map fun e => (e.key.render, e.render) }
  /-- Every other key of the status has its old value. -/
  others : ∀ key, (∀ k ∈ s.plane.table.keys, key ≠ k.render) →
    t.plane.board.status[key]? = s.plane.board.status[key]?
  shown : t.plane.board.expectEntries t.plane.table.entries = .ok ()

/-- Asked for a survey, an agent at work mirrors the table in the status, whatever either held before and
however far a thread that reads the keys runs ahead. -/
theorem survey_mirrors_table (operations : List Memory.Operation) (a : Agent) (lead : Memory → Nat)
    (value : String) (working : a.phase ≠ .disabled)
    (table : (Memory.after operations).table.connected = true)
    (board : (Memory.after operations).board.connected = true)
    (nonempty : Key.empty ∉ (Memory.after operations).table.keys) :
    ∃ t, (handle { Memory.plane with lead } (.option "mac" value)).run.run ⟨a, Memory.after operations⟩ = (.ok (), t) ∧
      Mirrors ⟨a, Memory.after operations⟩ t := by
  have distinct := Memory.after_distinct operations
  generalize Memory.after operations = m at table board distinct nonempty
  have surveyed := run_perform_survey (s := ⟨a, m⟩) lead table board distinct nonempty value
  refine ⟨⟨{ a with lastKeys := m.table.keys }, { m with board := m.board.mirror m.table.entries }⟩, ?_,
    ⟨rfl, rfl, rfl, m.board.mirror_eq _, fun key other => Board.mirror_status_other other _, ?_⟩⟩
  · have still : (m.board.mirror m.table.entries).connected = true := by rw [Board.mirror_eq, board]
    rw [handle_of_working _ working]
    exact (run_handleOption_ok _ surveyed).trans (run_reviewOptions lead still)
  · exact Board.expectEntries_of_status fun e stored => Board.mirror_status distinct stored m.board

/-- Learned entries, one with a reserved VLAN, are mirrored through a thread that runs ahead. -/
theorem survey_mirrors_learned :
    ∃ t, (handle { Memory.plane with lead := fun _ => 2 } (.option "mac" "")).run.run
        ⟨{ config := { bridge := .threaded } }, Memory.after [.learn [⟨⟨4095, .zero⟩, default⟩, ⟨⟨1, .zero⟩, default⟩]]⟩ =
          (.ok (), t) ∧
      Mirrors
        ⟨{ config := { bridge := .threaded } }, Memory.after [.learn [⟨⟨4095, .zero⟩, default⟩, ⟨⟨1, .zero⟩, default⟩]]⟩
        t :=
  survey_mirrors_table [.learn [⟨⟨4095, .zero⟩, default⟩, ⟨⟨1, .zero⟩, default⟩]]
    { config := { bridge := .threaded } } (fun _ => 2) "" (by decide) rfl rfl (by decide)

end Agent

end MacAgent
