import MacAgent.Agent.Basic
import MacAgent.Memory.Basic
import MacAgent.Proofs.Plane.Keeps

/-! # What requests leave alone in memory

Requests do not write options, do not cut the connection of the board, and announce nothing but
changes of the table. Only one of them changes the greeting. -/

namespace MacAgent

namespace Board

variable (b : Board)

/-- The value of an option that is set to a text: the empty text removes it. -/
def entered (value : String) : Option String := if value = "" then none else some value

theorem entered_of_ne {value : String} (h : value ≠ "") : entered value = some value := if_neg h

theorem setOption_options (key value key' : String) :
    (b.setOption key value).options[key']? = if key = key' then entered value else b.options[key']? := by
  unfold setOption entered
  split
  · rw [Std.TreeMap.getElem?_erase]
    simp only [Std.LawfulEqCmp.compare_eq_iff_eq]
  · rw [Std.TreeMap.getElem?_insert]
    simp only [Std.LawfulEqCmp.compare_eq_iff_eq]

/-- No option has the empty value. -/
def IsTidy (b : Board) : Prop := ∀ key : String, b.options[key]? ≠ some ""

theorem IsTidy.congr {b b' : Board} (h : b.IsTidy) (options : b'.options = b.options) : b'.IsTidy := by
  intro key
  rw [options]
  exact h key

theorem IsTidy.setOption {b : Board} (h : b.IsTidy) (key value : String) : (b.setOption key value).IsTidy := by
  intro key'
  rw [setOption_options]
  unfold entered
  split
  · split
    · exact nofun
    · rename_i full
      exact fun empty => full (Option.some.inj empty)
  · exact h key'

theorem ofOptions_isTidy (options : List (String × String)) : (ofOptions options).IsTidy :=
  List.foldlRecOn options _ (fun key => by simp) fun _ h o _ => h.setOption o.1 o.2

theorem ofOptions_connected (options : List (String × String)) : (ofOptions options).connected :=
  List.foldlRecOn (motive := fun b : Board => b.connected) options _ rfl fun _ h _ _ => h

theorem publish_status (key value key' : String) :
    (b.publish key value).status[key']? = if key = key' then some value else b.status[key']? := by
  unfold publish
  rw [Std.TreeMap.getElem?_insert]
  simp only [Std.LawfulEqCmp.compare_eq_iff_eq]

end Board

/-- An event that tells of a change of the table. -/
inductive Event.IsNotice : Event → Prop where
  | entrySet (entry : Entry) : IsNotice (.entrySet entry)
  | entryDeleted (key : Key) : IsNotice (.entryDeleted key)

instance : DecidablePred Event.IsNotice
  | .entrySet entry => isTrue (.entrySet entry)
  | .entryDeleted key => isTrue (.entryDeleted key)
  | .initialized | .enabled _ | .option .. => isFalse nofun

namespace Event

variable {notices : List Event}

theorem countP_isNotice (all : ∀ e ∈ notices, e.IsNotice) : notices.countP (·.IsNotice) = notices.length :=
  List.countP_eq_length.mpr fun e member => decide_eq_true (all e member)

theorem filter_not_isNotice (all : ∀ e ∈ notices, e.IsNotice) : notices.filter (¬·.IsNotice) = [] :=
  List.filter_eq_nil_iff.mpr fun e member => by simpa using all e member

end Event

namespace Table

variable {t : Table} {e : Event}

theorem announce_eq_some {event : Event} (h : t.announce event = some e) : event = e := by
  unfold announce at h
  split at h
  · exact Option.some.inj h
  · cases h

theorem isNotice_of_upsert {entry : Entry} (h : (t.upsert entry).2 = some e) : e.IsNotice := by
  unfold upsert at h
  split at h
  · split at h
    · cases h
    · obtain rfl := announce_eq_some h
      exact .entrySet entry
  · obtain rfl := announce_eq_some h
    exact .entrySet entry

theorem isNotice_of_install {t' : Table} {entry : Entry} (h : t.install entry = .ok (t', some e)) :
    e.IsNotice := by
  unfold install at h
  split at h
  · exact isNotice_of_upsert (congrArg Prod.snd (Except.ok.inj h))
  · cases h

theorem isNotice_of_delete {t' : Table} {key : Key} (h : t.delete key = .ok (t', some e)) :
    e.IsNotice := by
  unfold delete at h
  split at h
  · cases h
  · split at h
    · obtain rfl := announce_eq_some (congrArg Prod.snd (Except.ok.inj h))
      exact .entryDeleted key
    · cases h

end Table

namespace Memory

variable {m : Memory}

theorem answer_of_reaches {r : Request} (h : m.reaches r) : m.answer r = m.serve r := if_pos h

theorem answer_of_not_reaches {r : Request} (h : ¬m.reaches r) :
    m.answer r = (.error (.disconnected r.name), m) := if_neg h

/-- What every request that is served keeps, every request keeps: the others change nothing. -/
theorem heeds_of_serve {P : Request → Prop} {R : Memory → Memory → Prop} [IsPreorder Memory R]
    (h : ∀ r, P r → ∀ m, R m (m.serve r).2) : plane.Heeds P R where
  answer r hr m := by
    have kept : R m (m.answer r).2 := by
      by_cases reached : m.reaches r
      · rw [answer_of_reaches reached]
        exact h r hr m
      · rw [answer_of_not_reaches reached]
        exact refl_of R m
    exact kept
  polled _ _ m := refl_of R m

/-- What no request changes. -/
structure Frame (m m' : Memory) : Prop where
  options : m'.board.options = m.board.options
  connected : m'.board.connected = m.board.connected
  outbox : ∃ events, m'.outbox = m.outbox ++ events ∧ ∀ e ∈ events, e.IsNotice

theorem frame_of_outbox_eq {m' : Memory} (options : m'.board.options = m.board.options)
    (connected : m'.board.connected = m.board.connected) (outbox : m'.outbox = m.outbox) : m.Frame m' :=
  ⟨options, connected, [], outbox.trans (List.append_nil _).symm, fun _ => (absurd · List.not_mem_nil)⟩

instance : IsPreorder Memory Frame where
  refl _ := frame_of_outbox_eq rfl rfl rfl
  trans m m' m'' h h' := by
    obtain ⟨events, sent, notices⟩ := h.outbox
    obtain ⟨events', sent', notices'⟩ := h'.outbox
    refine ⟨h'.options.trans h.options, h'.connected.trans h.connected, events ++ events', ?_, ?_⟩
    · rw [sent', sent, List.append_assoc]
    · exact fun e he => (List.mem_append.mp he).elim (notices e) (notices' e)

@[simp]
theorem updateTable_board (result : Except Fault (Table × Option Event)) :
    (m.updateTable result).2.board = m.board := by
  rcases result with fault | ⟨t, event?⟩
  · rfl
  · rfl

theorem updateTable_frame {result : Except Fault (Table × Option Event)}
    (h : ∀ t e, result = .ok (t, some e) → e.IsNotice) : m.Frame (m.updateTable result).2 := by
  rcases result with fault | ⟨t, event?⟩
  · exact refl_of Frame m
  · refine ⟨rfl, rfl, event?.toList, rfl, fun e he => h t e ?_⟩
    rw [Option.mem_toList.mp he]

theorem serve_frame (m : Memory) (r : Request) : m.Frame (m.serve r).2 := by
  cases r with
  | install entry => exact updateTable_frame fun _ _ => Table.isNotice_of_install
  | delete key => exact updateTable_frame fun _ _ => Table.isNotice_of_delete
  | acknowledge complete =>
    cases complete with
    | true => exact frame_of_outbox_eq rfl rfl rfl
    | false => exact frame_of_outbox_eq rfl rfl rfl
  | option | optionValues | status | publish | keys | lookup | watch => exact frame_of_outbox_eq rfl rfl rfl

theorem heeds_frame (P : Request → Prop) : plane.Heeds P Frame := heeds_of_serve fun r _ m => serve_frame m r

/-! ### The greeting -/

/-- The name to greet. -/
def name? (m : Memory) : Option String := m.board.options[Topic.name.key]?

theorem name?_congr {m' : Memory} (options : m'.board.options = m.board.options) : m'.name? = m.name? := by
  unfold name?
  rw [options]

/-- The value last published as the greeting. -/
def greeting? (m : Memory) : Option String := m.board.status[StatusKey.greeting]?

theorem publish_greeting? (m : Memory) (key value : String) :
    greeting? { m with board := m.board.publish key value } =
      if key = StatusKey.greeting then some value else m.greeting? :=
  m.board.publish_status key value StatusKey.greeting

/-- The greeting is the same. -/
def SameGreeting (m m' : Memory) : Prop := m'.greeting? = m.greeting?

instance : IsPreorder Memory SameGreeting where
  refl _ := rfl
  trans _ _ _ h h' := Eq.trans h' h

/-- A request that does not publish a greeting. -/
def IsNoGreeting (r : Request) : Prop := ∀ value, r ≠ .publish StatusKey.greeting value

theorem serve_sameGreeting (m : Memory) {r : Request} (h : IsNoGreeting r) :
    m.SameGreeting (m.serve r).2 := by
  cases r with
  | publish key value =>
    have other : key ≠ StatusKey.greeting := by
      rintro rfl
      exact h value rfl
    exact (m.publish_greeting? key value).trans (if_neg other)
  | acknowledge complete =>
    cases complete with
    | true => rfl
    | false => rfl
  | install entry => exact congrArg (·.status[StatusKey.greeting]?) (m.updateTable_board (m.table.install entry))
  | delete key => exact congrArg (·.status[StatusKey.greeting]?) (m.updateTable_board (m.table.delete key))
  | option | optionValues | status | keys | lookup | watch => rfl

theorem heeds_sameGreeting : plane.Heeds IsNoGreeting SameGreeting :=
  heeds_of_serve fun _ hr m => serve_sameGreeting m hr

end Memory

end MacAgent
