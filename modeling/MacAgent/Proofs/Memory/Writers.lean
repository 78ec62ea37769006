import Mathlib.Logic.Function.Basic
import MacAgent.Proofs.Memory.Notices

/-! # Two writers

The console and the agent write the same table, each on a thread of its own. A call changes the table under a
lock and sends the notice of it, if there is one, after it has let the lock go. So the notices of two changes
of one entry can come in the other order: what is told last of a key is the last change, or a change that the
other writer made before it and had not yet told. -/

namespace MacAgent

namespace Event

variable {k : Key} {e : Event} {events events' : List Event}

def key? : Event → Option Key
  | .entrySet entry => some entry.key
  | .entryDeleted k => some k
  | .initialized | .enabled _ | .option .. => none

def lastAbout? (k : Key) (events : List Event) : Option Event := (events.filter (·.key? = some k)).getLast?

theorem lastAbout?_mem (h : lastAbout? k events = some e) : e ∈ events ∧ e.key? = some k := by
  have listed := List.mem_filter.mp (List.mem_of_getLast? h)
  exact ⟨listed.1, of_decide_eq_true listed.2⟩

/-- If there is one, there is a last one, and what came earlier does not count. -/
theorem exists_lastAbout? (events : List Event) (told : e ∈ events') (about : e.key? = some k) :
    ∃ last, lastAbout? k (events ++ events') = some last ∧ last ∈ events' ∧ last.key? = some k := by
  have listed : e ∈ events'.filter (·.key? = some k) := List.mem_filter.mpr ⟨told, decide_eq_true about⟩
  obtain ⟨last, found⟩ := Option.ne_none_iff_exists'.mp (mt List.getLast?_eq_none_iff.mp (List.ne_nil_of_mem listed))
  refine ⟨last, ?_, lastAbout?_mem found⟩
  unfold lastAbout?
  rw [List.filter_append, List.getLast?_append, found, Option.some_or]

end Event

namespace Table

variable {t t' : Table} {e : Entry} {k k' : Key} {event? : Option Event} {event : Event}

/-- The notice that tells what the table holds for a key. -/
def notice (t : Table) (k : Key) : Event :=
  match t.find? k with
  | some e => .entrySet e
  | none => .entryDeleted k

theorem notice_key? (t : Table) (k : Key) : (t.notice k).key? = some k := by
  unfold notice
  split
  · rename_i e found
    exact congrArg some (find?_key found)
  · rfl

theorem notice_of_find? (h : t.find? k = some e) : t.notice k = .entrySet e := by
  unfold notice
  rw [h]

theorem notice_congr (h : t'.find? k = t.find? k) : t'.notice k = t.notice k := by
  unfold notice
  rw [h]

/-- `t'` is `t` with nothing changed but the entry for the key, and this is what is told of it. -/
structure Writes (k : Key) (t t' : Table) (event? : Option Event) : Prop where
  others : ∀ k', k' ≠ k → t'.find? k' = t.find? k'
  watching : t'.watching = t.watching
  told : t'.find? k = t.find? k ∧ event? = none ∨ t'.find? k ≠ t.find? k ∧ event? = t.announce (t'.notice k)

theorem writes_nothing (k : Key) (t : Table) : t.Writes k t none := ⟨fun _ _ => rfl, rfl, .inl ⟨rfl, rfl⟩⟩

theorem upsert_writes (t : Table) (e : Entry) : t.Writes e.key (t.upsert e).1 (t.upsert e).2 := by
  have puts := t.upsert_puts e
  refine ⟨puts.others, puts.watching, ?_⟩
  rw [notice_of_find? puts.found, puts.found]
  unfold upsert
  split
  · rename_i old found
    rw [found]
    split
    · rename_i same
      exact .inl ⟨congrArg some same.symm, rfl⟩
    · rename_i other
      exact .inr ⟨fun same => other (Option.some.inj same).symm, rfl⟩
  · rename_i missing
    rw [missing]
    exact .inr ⟨nofun, rfl⟩

theorem install_writes (h : t.install e = .ok (t', event?)) : t.Writes e.key t' event? := by
  unfold install at h
  split at h
  · have writes := t.upsert_writes e
    rwa [Except.ok.inj h] at writes
  · cases h

theorem delete_writes (h : t.delete k = .ok (t', event?)) : t.Writes k t' event? := by
  have drops := (delete_drops h).2
  refine ⟨drops.others, drops.watching, ?_⟩
  have notice : t'.notice k = .entryDeleted k := by
    unfold Table.notice
    rw [drops.gone]
  rw [notice, drops.gone]
  unfold delete at h
  split at h
  · cases h
  · split at h
    · rename_i present
      cases h
      refine .inr ⟨fun none => ?_, rfl⟩
      rw [← none] at present
      cases present
    · rename_i missing
      cases h
      exact .inl ⟨(Option.not_isSome_iff_eq_none.mp missing).symm, rfl⟩

/-- Of an entry that stays as it is, nothing is told. -/
theorem Writes.silent (h : t.Writes k t' event?) (same : t'.find? k' = t.find? k') (told : event? = some event) :
    event.key? ≠ some k' := by
  rintro about
  rcases h.told with ⟨-, none⟩ | ⟨changed, announced⟩
  · rw [none] at told
    cases told
  · obtain rfl := announce_eq_some (announced.symm.trans told)
    obtain rfl : k = k' := Option.some.inj ((notice_key? t' k).symm.trans about)
    exact changed same

/-- While the table is watched, every change is told, and it is a change of the key that is written. -/
theorem Writes.tells (h : t.Writes k t' event?) (watched : t.watching = true) (changed : t'.find? k' ≠ t.find? k') :
    event? = some (t'.notice k') := by
  obtain rfl : k' = k := by
    by_contra other
    exact changed (h.others k' other)
  rcases h.told with ⟨same, -⟩ | ⟨-, announced⟩
  · exact absurd same changed
  · rw [announced]
    exact if_pos watched

end Table

/-- Who writes the table: the console on its thread, or the agent. -/
inductive Client where
  | console
  | agent
deriving DecidableEq, Repr

def Client.other : Client → Client
  | console => agent
  | agent => console

theorem Client.eq_other {c d : Client} (h : d ≠ c) : d = c.other := by
  cases c with
  | console =>
    cases d with
    | console => exact absurd rfl h
    | agent => rfl
  | agent =>
    cases d with
    | console => rfl
    | agent => exact absurd rfl h

/-- A call that changes one entry. To learn some entries is to learn one after another. -/
inductive Write where
  | learn (e : Entry)
  | install (e : Entry)
  | delete (k : Key)

namespace Write

def key : Write → Key
  | learn e | install e => e.key
  | delete k => k

/-- What the call does while it holds the lock. -/
def apply (t : Table) : Write → Except Fault (Table × Option Event)
  | learn e => .ok (t.upsert e)
  | install e => if t.connected then t.install e else .error (.disconnected (Request.install e).name)
  | delete k => if t.connected then t.delete k else .error (.disconnected (Request.delete k).name)

/-- The whole call, if nothing comes between its steps. -/
def perform (m : Memory) : Write → Memory
  | learn e => m.learn [e]
  | install e => (m.answer (.install e)).2
  | delete k => (m.answer (.delete k)).2

variable {w : Write} {t t' : Table} {event? : Option Event}

theorem apply_writes (h : w.apply t = .ok (t', event?)) : t.Writes w.key t' event? := by
  cases w with
  | learn e =>
    have writes := t.upsert_writes e
    rwa [Except.ok.inj h] at writes
  | install e =>
    unfold apply at h
    dsimp only at h
    split at h
    · exact Table.install_writes h
    · cases h
  | delete k =>
    unfold apply at h
    dsimp only at h
    split at h
    · exact Table.delete_writes h
    · cases h

theorem perform_eq (w : Write) (m : Memory) : w.perform m = (m.updateTable (w.apply m.table)).2 := by
  cases w with
  | learn e =>
    show { m with table := (m.table.upsert e).1 }.send ((m.table.upsert e).2.toList ++ []) = _
    rw [List.append_nil]
    rfl
  | install e =>
    unfold perform apply
    dsimp only
    split
    · rename_i connected
      rw [Memory.answer_of_reaches (r := .install e) connected]
      rfl
    · rename_i cut
      rw [Memory.answer_of_not_reaches (r := .install e) cut]
      rfl
  | delete k =>
    unfold perform apply
    dsimp only
    split
    · rename_i connected
      rw [Memory.answer_of_reaches (r := .delete k) connected]
      rfl
    · rename_i cut
      rw [Memory.answer_of_not_reaches (r := .delete k) cut]
      rfl

end Write

/-- The plane, and the notices that the two clients have yet to send. A client with such a notice is inside
a call. -/
structure Writers where
  memory : Memory
  unsent : Client → Option Event

namespace Writers

/-- Whose step comes next: a client makes a call and changes the table, or sends the notice of its change. -/
inductive Move where
  | write (c : Client) (w : Write)
  | send (c : Client)

/-- Nobody is inside a call. -/
def start (m : Memory) : Writers := ⟨m, fun _ => none⟩

def IsQuiet (s : Writers) : Prop := ∀ c, s.unsent c = none

def step (s : Writers) : Move → Option Writers
  | .write c w =>
    if s.unsent c = none then
      match w.apply s.memory.table with
      | .ok (table, event?) => some ⟨{ s.memory with table }, Function.update s.unsent c event?⟩
      | .error _ => some s
    else none
  | .send c =>
    match s.unsent c with
    | some e => some ⟨s.memory.send [e], Function.update s.unsent c none⟩
    | none => none

def run (s : Writers) : List Move → Option Writers
  | [] => some s
  | mv :: rest => (s.step mv).bind (·.run rest)

variable {s s₁ s₂ s' : Writers} {c : Client} {w : Write} {mv : Move} {moves : List Move} {k : Key} {e : Event}

theorem held_update {unsent : Client → Option Event} {event? : Option Event} {d : Client} :
    Function.update unsent c event? d = some e ↔ d = c ∧ event? = some e ∨ d ≠ c ∧ unsent d = some e := by
  by_cases own : d = c
  · rw [own, Function.update_self]
    simp
  · rw [Function.update_of_ne own]
    simp [own]

theorem step_write (h : s.step (.write c w) = some s') : s.unsent c = none ∧ ∃ event?,
    s.memory.table.Writes w.key s'.memory.table event? ∧ s'.memory.outbox = s.memory.outbox ∧
      s'.unsent = Function.update s.unsent c event? := by
  unfold step at h
  dsimp only at h
  split at h
  · rename_i idle
    refine ⟨idle, ?_⟩
    split at h
    · rename_i table event? applied
      cases h
      exact ⟨event?, Write.apply_writes applied, rfl, rfl⟩
    · cases h
      exact ⟨none, Table.writes_nothing _ _, rfl, (Function.update_eq_self_iff.mpr idle.symm).symm⟩
  · cases h

theorem step_send (h : s.step (.send c) = some s') : ∃ e, s.unsent c = some e ∧
    s'.memory.table = s.memory.table ∧ s'.memory.outbox = s.memory.outbox ++ [e] ∧
      s'.unsent = Function.update s.unsent c none := by
  unfold step at h
  dsimp only at h
  split at h
  · rename_i e held
    cases h
    exact ⟨e, held, rfl, rfl, rfl⟩
  · cases h

theorem step_frame (h : s.step mv = some s') : (∃ sent, s'.memory.outbox = s.memory.outbox ++ sent) ∧
    s'.memory.table.watching = s.memory.table.watching := by
  cases mv with
  | write c w =>
    obtain ⟨-, event?, writes, outbox, -⟩ := step_write h
    exact ⟨⟨[], by rw [outbox, List.append_nil]⟩, writes.watching⟩
  | send c =>
    obtain ⟨e, -, table, outbox, -⟩ := step_send h
    exact ⟨⟨[e], outbox⟩, by rw [table]⟩

theorem run_frame (h : s.run moves = some s') : (∃ sent, s'.memory.outbox = s.memory.outbox ++ sent) ∧
    s'.memory.table.watching = s.memory.table.watching := by
  induction moves generalizing s with
  | nil =>
    cases h
    exact ⟨⟨[], (List.append_nil _).symm⟩, rfl⟩
  | cons mv rest ih =>
    obtain ⟨s₁, first, later⟩ := Option.bind_eq_some_iff.mp h
    obtain ⟨⟨sent, outbox⟩, watching⟩ := step_frame first
    obtain ⟨⟨sent', outbox'⟩, watching'⟩ := ih later
    exact ⟨⟨sent ++ sent', by rw [outbox', outbox, List.append_assoc]⟩, watching'.trans watching⟩

/-- The moves lead from `s` to `s'`, and none of them changes the entry for the key. -/
def Steady (k : Key) (s : Writers) : List Move → Writers → Prop
  | [], s' => s' = s
  | mv :: rest, s' => ∃ s₁, s.step mv = some s₁ ∧ s₁.memory.table.find? k = s.memory.table.find? k ∧ Steady k s₁ rest s'

theorem Steady.find? (h : Steady k s moves s') : s'.memory.table.find? k = s.memory.table.find? k := by
  induction moves generalizing s with
  | nil => rw [show s' = s from h]
  | cons mv rest ih =>
    obtain ⟨s₁, -, same, later⟩ := h
    exact (ih later).trans same

theorem exists_last_change (h : s.run moves = some s') (k : Key) : Steady k s moves s' ∨
    ∃ before c w later s₁ s₂, moves = before ++ .write c w :: later ∧ s.run before = some s₁ ∧
      s₁.step (.write c w) = some s₂ ∧ s₂.memory.table.find? k ≠ s₁.memory.table.find? k ∧ Steady k s₂ later s' := by
  induction moves generalizing s with
  | nil => exact .inl (Option.some.inj h).symm
  | cons mv rest ih =>
    obtain ⟨s₁, first, run⟩ := Option.bind_eq_some_iff.mp h
    rcases ih run with steady | ⟨before, c, w, later, s₂, s₃, rfl, reached, wrote, changed, steady⟩
    · by_cases same : s₁.memory.table.find? k = s.memory.table.find? k
      · exact .inl ⟨s₁, first, same, steady⟩
      · cases mv with
        | write c w => exact .inr ⟨[], c, w, rest, s, s₁, rfl, rfl, first, same, steady⟩
        | send c =>
          obtain ⟨-, -, table, -⟩ := step_send first
          rw [table] at same
          exact absurd rfl same
    · refine .inr ⟨mv :: before, c, w, later, s₂, s₃, rfl, ?_, wrote, changed, steady⟩
      exact Option.bind_eq_some_iff.mpr ⟨s₁, first, reached⟩

/-- While the entry for a key stays as it is, what is sent about the key was held at the start, and what was
held at the start is sent or still held. -/
theorem Steady.sends (h : Steady k s moves s') : ∃ sent, s'.memory.outbox = s.memory.outbox ++ sent ∧
    (∀ e ∈ sent, e.key? = some k → ∃ c, s.unsent c = some e) ∧
    ∀ c e, s.unsent c = some e → e ∈ sent ∨ s'.unsent c = some e := by
  induction moves generalizing s with
  | nil =>
    rw [show s' = s from h]
    exact ⟨[], (List.append_nil _).symm, nofun, fun c e held => .inr held⟩
  | cons mv rest ih =>
    obtain ⟨s₁, first, same, later⟩ := h
    obtain ⟨sent, outbox', origin, kept⟩ := ih later
    cases mv with
    | write c w =>
      obtain ⟨idle, event?, writes, outbox, unsent⟩ := step_write first
      refine ⟨sent, outbox'.trans (congrArg (· ++ sent) outbox), fun e told about => ?_, fun d e held => kept d e ?_⟩
      · obtain ⟨d, held⟩ := origin e told about
        rw [unsent] at held
        rcases held_update.mp held with ⟨-, new⟩ | ⟨-, held⟩
        · -- What the writer holds now is about the entry that it has changed.
          exact absurd about (writes.silent same new)
        · exact ⟨d, held⟩
      · rw [unsent]
        refine held_update.mpr (.inr ⟨?_, held⟩)
        rintro rfl
        rw [idle] at held
        cases held
    | send c =>
      obtain ⟨e₀, held₀, -, outbox, unsent⟩ := step_send first
      refine ⟨e₀ :: sent, ?_, fun e told about => ?_, fun d e held => ?_⟩
      · rw [outbox', outbox, List.append_assoc]
        rfl
      · rcases List.mem_cons.mp told with rfl | told
        · exact ⟨c, held₀⟩
        · obtain ⟨d, held⟩ := origin e told about
          rw [unsent] at held
          rcases held_update.mp held with ⟨-, none⟩ | ⟨-, held⟩
          · cases none
          · exact ⟨d, held⟩
      · by_cases own : d = c
        · subst own
          obtain rfl := Option.some.inj (held.symm.trans held₀)
          exact .inl List.mem_cons_self
        · have held₁ : s₁.unsent d = some e := by
            rw [unsent]
            exact held_update.mpr (.inr ⟨own, held⟩)
          exact (kept d e held₁).imp_left (List.mem_cons_of_mem _)

/-- A call with nothing between its steps is the call of a single writer. -/
theorem run_alone (m : Memory) (c : Client) (w : Write) :
    (start m).run [.write c w] = some (start (w.perform m)) ∨
    (start m).run [.write c w, .send c] = some (start (w.perform m)) := by
  have back : Function.update (fun _ : Client => (none : Option Event)) c none = fun _ => none :=
    Function.update_eq_self c _
  rw [w.perform_eq]
  rcases applied : w.apply m.table with fault | ⟨t, _ | e⟩
  · refine .inl ?_
    simp only [run, step, start, applied, if_true, Option.bind_some, Memory.updateTable]
  · refine .inl ?_
    simp only [run, step, start, applied, if_true, Option.bind_some, back, Memory.updateTable, Option.toList_none,
      Memory.send, List.append_nil]
  · refine .inr ?_
    simp only [run, step, start, applied, if_true, Option.bind_some, Function.update_self, Function.update_idem, back,
      Memory.updateTable, Option.toList_some]

/-- What the notices that were sent tell last of a key, next to what the table then holds. -/
inductive Told (m : Memory) (moves : List Move) (k : Key) (sent : List Event) (t : Table) : Prop where
  /-- No call changed the entry for the key, and nothing was sent about it. -/
  | untouched (silent : ∀ e ∈ sent, e.key? ≠ some k) (same : t.find? k = m.table.find? k)
  | agrees (last : Event.lastAbout? k sent = some (t.notice k))
  /-- When the entry was last changed, the other client had yet to send this notice about the key. -/
  | overtaken {before later : List Move} {c : Client} {w : Write} {s₁ s₂ s' : Writers} {e : Event}
    (split : moves = before ++ .write c w :: later) (reached : (start m).run before = some s₁)
    (wrote : s₁.step (.write c w) = some s₂) (changed : s₂.memory.table.find? k ≠ s₁.memory.table.find? k)
    (steady : Steady k s₂ later s') (unsent : s₁.unsent c.other = some e) (about : e.key? = some k)
    (last : Event.lastAbout? k sent = some e)

/-- However the calls of two clients on a watched table interleave, once they have all returned, the last
notice about each key that was changed tells what the table holds, unless a notice of the other client was
overtaken by the last change. -/
theorem last_notice_agrees_or_is_overtaken (m : Memory) (watched : m.table.watching = true)
    (run : (start m).run moves = some s) (quiet : s.IsQuiet) :
    ∃ sent, s.memory.outbox = m.outbox ++ sent ∧ ∀ k, Told m moves k sent s.memory.table := by
  obtain ⟨⟨sent, outbox⟩, -⟩ := run_frame run
  refine ⟨sent, outbox, fun k => ?_⟩
  rcases exists_last_change run k with steady | ⟨before, c, w, later, s₁, s₂, split, reached, wrote, changed, steady⟩
  · obtain ⟨sent', outbox', origin, -⟩ := steady.sends
    obtain rfl : sent = sent' := List.append_cancel_left (outbox.symm.trans outbox')
    refine .untouched (fun e told about => ?_) steady.find?
    obtain ⟨c, held⟩ := origin e told about
    cases held
  · obtain ⟨⟨sent₁, outbox₁⟩, watching⟩ := run_frame reached
    obtain ⟨-, event?, writes, outbox₂, unsent⟩ := step_write wrote
    obtain ⟨sent₂, outbox₃, origin, kept⟩ := steady.sends
    have event : event? = some (s₂.memory.table.notice k) := writes.tells (watching.trans watched) changed
    have parts : sent = sent₁ ++ sent₂ := by
      rw [outbox₃, outbox₂, outbox₁, List.append_assoc] at outbox
      exact (List.append_cancel_left outbox).symm
    have own : s₂.unsent c = some (s₂.memory.table.notice k) := by rw [unsent, Function.update_self, event]
    -- The writer's notice has been sent, since nobody holds one any more.
    have told : s₂.memory.table.notice k ∈ sent₂ := (kept c _ own).resolve_right fun held => by
      rw [quiet c] at held
      cases held
    obtain ⟨e, last, member, about⟩ := Event.exists_lastAbout? sent₁ told (Table.notice_key? _ _)
    rw [← parts] at last
    obtain ⟨d, held⟩ := origin e member about
    rw [unsent] at held
    rcases held_update.mp held with ⟨-, new⟩ | ⟨other, held⟩
    · obtain rfl := Option.some.inj (event.symm.trans new)
      rw [← Table.notice_congr steady.find?] at last
      exact .agrees last
    · exact .overtaken split reached wrote changed steady (Client.eq_other other ▸ held) about last

/-! ### Two entries for one key -/

def bare : Entry := ⟨⟨1, .zero⟩, .empty⟩

def wired : Entry := ⟨⟨1, .zero⟩, .singleton ⟨"Ethernet7", by decide⟩⟩

def watching (entries : List Entry) : Memory := { table := { entries, watching := true } }

/-- One client changes an entry while the notice of the other one's change is unsent, and sends its own first. -/
def crossing : List Move :=
  [.write .console (.learn bare), .write .agent (.install wired), .send .agent, .send .console]

theorem last_notice_when_crossing :
    ∃ s, (start (watching [])).run crossing = some s ∧ (watching []).table.watching = true ∧ s.IsQuiet ∧
      ∃ sent, s.memory.outbox = (watching []).outbox ++ sent ∧
        ∀ k, Told (watching []) crossing k sent s.memory.table := by
  refine ⟨_, rfl, rfl, ?quiet, last_notice_agrees_or_is_overtaken (watching []) rfl rfl ?quiet⟩
  intro c
  cases c with
  | console | agent => rfl

/-- What is told last can disagree with the table: the notices come in the other order than the changes. And
of an entry that is set as it is, nothing is told at all. -/
theorem last_notice_disagrees :
    (∃ s, (start (watching [])).run crossing = some s ∧ s.IsQuiet ∧
      Event.lastAbout? bare.key s.memory.outbox = some (.entrySet bare) ∧
      s.memory.table.find? bare.key = some wired ∧ bare ≠ wired) ∧
    ∃ s, (start (watching [bare])).run [.write .agent (.install bare)] = some s ∧ s.IsQuiet ∧
      Event.lastAbout? bare.key s.memory.outbox = none ∧ s.memory.table.find? bare.key = some bare := by
  refine ⟨⟨_, rfl, fun c => ?_, rfl, rfl, by decide⟩, ⟨_, rfl, fun c => ?_, rfl, rfl⟩⟩
  · cases c with
    | console | agent => rfl
  · cases c with
    | console | agent => rfl

end Writers

end MacAgent
