import MacAgent.Proofs.Agent.Indifference
import MacAgent.Proofs.Agent.Mirror
import MacAgent.Proofs.Plane.Surfacing
import MacAgent.Rig.Basic

/-! # Surveys of any plane

A survey looks up the keys of its cursor one after another and publishes what it finds, whatever the plane
answers. A lookup that fails fatally ends it, and any other failed lookup does not. A value that cannot be
published ends it in either case, so a survey that meets no fatal fault reaches the last key exactly if
every value that it publishes is taken. -/

namespace MacAgent

/-- What came of one key of a survey. -/
inductive Look where
  /-- There was an entry, and this was the answer to its publication. -/
  | found (k : Key) (e : Entry) (shown : Except Fault Unit)
  | vanished (k : Key)
  | failed (k : Key) (fault : Fault)

namespace Look

def key : Look → Key
  | found k .. | vanished k | failed k _ => k

def exchanges : Look → List Exchange
  | found k e shown => [⟨.lookup k, .ok (some e)⟩, ⟨.publish e.key.render e.render, shown⟩]
  | vanished k => [⟨.lookup k, .ok none⟩]
  | failed k fault => [⟨.lookup k, .error fault⟩]

def pair? : Look → Option (Key × Entry)
  | found k e _ => some (k, e)
  | vanished _ | failed .. => none

/-- The fault that ends the survey. -/
def end? : Look → Option Fault
  | found _ _ (.error fault) => some fault
  | failed _ fault => if fault.isFatal then some fault else none
  | found _ _ (.ok _) | vanished _ => none

variable {l : Look} {looks : List Look} {keys : List Key} {fault : Fault}
  {result : Except Fault (List (Key × Entry))}

theorem end?_eq_some : l.end? = some fault ↔
    (∃ k e, l = found k e (.error fault)) ∨ ∃ k, l = failed k fault ∧ fault.isFatal := by
  cases l with
  | found k e shown =>
    cases shown with
    | error _ => simp [end?]
    | ok _ => simp [end?]
  | vanished k => simp [end?]
  | failed k _ =>
    simp only [end?, Option.ite_none_right_eq_some, Option.some.injEq, reduceCtorEq, exists_false, false_or,
      failed.injEq]
    constructor
    · rintro ⟨isFatal, rfl⟩
      exact ⟨k, ⟨rfl, rfl⟩, isFatal⟩
    · rintro ⟨_, ⟨rfl, rfl⟩, isFatal⟩
      exact ⟨isFatal, rfl⟩

theorem calm_of (taken : ∀ k e fault, found k e (.error fault) ∉ looks)
    (mild : ∀ k fault, failed k fault ∈ looks → ¬fault.isFatal) : ∀ l ∈ looks, l.end? = none := by
  intro l member
  by_contra ended
  obtain ⟨fault, ends⟩ := Option.ne_none_iff_exists'.mp ended
  rcases end?_eq_some.mp ends with ⟨k, e, rfl⟩ | ⟨k, rfl, isFatal⟩
  · exact taken k e fault member
  · exact mild k fault member isFatal

/-- How a survey of `keys` ends, and with which result. -/
inductive Outcome (keys : List Key) : List Look → Except Fault (List (Key × Entry)) → Prop where
  | complete {looks : List Look} (all : looks.map key = keys) (calm : ∀ l ∈ looks, l.end? = none) :
      Outcome keys looks (.ok (looks.filterMap pair?))
  | cut {before : List Look} {last : Look} {fault : Fault} (first : (before ++ [last]).map key <+: keys)
      (calm : ∀ l ∈ before, l.end? = none) (ends : last.end? = some fault) :
      Outcome keys (before ++ [last]) (.error fault)

theorem Outcome.cons (h : Outcome keys looks result) (calm : l.end? = none) :
    Outcome (l.key :: keys) (l :: looks) (result.map (l.pair?.toList ++ ·)) := by
  cases h with
  | complete all calm' =>
    have pairs : l.pair?.toList ++ looks.filterMap pair? = (l :: looks).filterMap pair? := by
      rw [List.filterMap_cons]
      cases l.pair? with
      | none | some => rfl
    show Outcome _ _ (.ok (l.pair?.toList ++ looks.filterMap pair?))
    rw [pairs]
    exact .complete (by rw [List.map_cons, all]) (List.forall_mem_cons.mpr ⟨calm, calm'⟩)
  | @cut before last fault first calm' ends =>
    exact @cut _ (l :: before) _ _ (List.cons_prefix_cons.mpr ⟨rfl, first⟩)
      (List.forall_mem_cons.mpr ⟨calm, calm'⟩) ends

theorem Outcome.of_end (ends : l.end? = some fault) : Outcome (l.key :: keys) [l] (.error fault) :=
  @cut _ [] _ _ (List.cons_prefix_cons.mpr ⟨rfl, List.nil_prefix⟩) nofun ends

/-- A look that ends its survey is the last. -/
theorem Outcome.last (h : Outcome keys looks result) (member : l ∈ looks)
    (ends : l.end? = some fault) :
    (∃ before, looks = before ++ [l]) ∧ looks.map key <+: keys ∧ result = .error fault := by
  cases h with
  | complete _ calm =>
    rw [calm l member] at ends
    cases ends
  | cut first calm ends' =>
    rcases List.mem_append.mp member with earlier | last
    · rw [calm l earlier] at ends
      cases ends
    · obtain rfl := List.mem_singleton.mp last
      obtain rfl := Option.some.inj (ends'.symm.trans ends)
      exact ⟨⟨_, rfl⟩, first, rfl⟩

theorem Outcome.exists_end (h : Outcome keys looks (.error fault)) : ∃ l ∈ looks, l.end? = some fault := by
  cases h with
  | @cut before last _ _ _ ends => exact ⟨last, List.mem_append_right _ (List.mem_singleton_self _), ends⟩

theorem Outcome.nil (h : Outcome [] looks result) : looks = [] ∧ result = .ok [] := by
  cases h with
  | complete all _ =>
    obtain rfl := List.map_eq_nil_iff.mp all
    exact ⟨rfl, rfl⟩
  | cut first _ _ => simp at first

/-- Every key has been looked up, and what was found is the result. -/
def IsComplete (keys : List Key) (looks : List Look) (result : Except Fault (List (Key × Entry))) : Prop :=
  looks.map key = keys ∧ result = .ok (looks.filterMap pair?)

theorem Outcome.isComplete (h : Outcome keys looks result) (calm : ∀ l ∈ looks, l.end? = none) :
    IsComplete keys looks result := by
  cases h with
  | complete all _ => exact ⟨all, rfl⟩
  | @cut before last fault _ _ ends =>
    rw [calm last (List.mem_append_right _ (List.mem_singleton_self _))] at ends
    cases ends

end Look

/-- The plane, in some state, gives this answer. -/
def Exchange.AnsweredBy {σ : Type} (plane : Plane σ) (x : Exchange) : Prop :=
  ∃ s, (plane.answer x.request s).1 = x.answer

namespace Plane

variable {σ : Type} (plane : Plane σ)

/-- The looks of a survey account for all that was asked of the plane after the keys. -/
structure Looked (s t : Recorded σ) (looks : List Look) : Prop where
  calls : t.exchanges = s.exchanges ++ looks.flatMap Look.exchanges
  answered : ∀ l ∈ looks, ∀ x ∈ l.exchanges, x.AnsweredBy plane

variable {plane} {s t u : Recorded σ} {looks looks' : List Look} {keys : List Key}

theorem Looked.nil (same : t.exchanges = s.exchanges) : plane.Looked s t [] :=
  ⟨same.trans (List.append_nil _).symm, by simp⟩

theorem Looked.append (h : plane.Looked s t looks) (h' : plane.Looked t u looks') :
    plane.Looked s u (looks ++ looks') where
  calls := by rw [h'.calls, h.calls, List.flatMap_append, List.append_assoc]
  answered l member := (List.mem_append.mp member).elim (h.answered l) (h'.answered l)

theorem Looked.single {l : Look} (calls : t.exchanges = s.exchanges ++ l.exchanges)
    (answered : ∀ x ∈ l.exchanges, x.AnsweredBy plane) : plane.Looked s t [l] :=
  ⟨by rw [calls, List.flatMap_singleton], List.forall_mem_singleton.mpr answered⟩

theorem run_call_recorded (plane : Plane σ) (r : Request) (s : Recorded σ) :
    ∃ answer t, (plane.recorded.call r).run.run s = (answer, t) ∧ t.exchanges = s.exchanges ++ [⟨r, answer⟩] ∧
      Exchange.AnsweredBy plane ⟨r, answer⟩ := ⟨_, _, rfl, rfl, s.plane, rfl⟩

theorem run_surveyKey (plane : Plane σ) (seen : List (Key × Entry)) (k : Key) (s : Recorded σ) :
    ∃ (l : Look) (t : Recorded σ), l.key = k ∧ plane.Looked s t [l] ∧
      (plane.recorded.surveyKey seen k).run.run s =
        (l.end?.elim (.ok (seen ++ l.pair?.toList)) .error, t) := by
  have asked : ∃ (answer : Except Fault (Option Entry)) (t : Recorded σ),
      (plane.recorded.lookup k).run.run s = (answer, t) ∧ t.exchanges = s.exchanges ++ [⟨.lookup k, answer⟩] ∧
        Exchange.AnsweredBy plane ⟨.lookup k, answer⟩ := plane.run_call_recorded (.lookup k) s
  obtain ⟨answer, t, looked, calls, answered⟩ := asked
  have tried : (attempt (plane.recorded.lookup k)).run.run s = (.ok answer, t) := by rw [run_attempt, looked]
  unfold Plane.surveyKey
  rw [run_bind_ok tried]
  match answer with
  | .error fault =>
    refine ⟨.failed k fault, t, rfl, .single calls (List.forall_mem_singleton.mpr answered), ?_⟩
    unfold Look.end?
    dsimp only
    split
    · rfl
    · rw [show (Look.failed k fault).pair?.toList = [] from rfl, List.append_nil]
      rfl
  | .ok none =>
    refine ⟨.vanished k, t, rfl, .single calls (List.forall_mem_singleton.mpr answered), ?_⟩
    rw [show (Look.vanished k).pair?.toList = [] from rfl, List.append_nil]
    rfl
  | .ok (some e) =>
    have asked : ∃ (shown : Except Fault Unit) (u : Recorded σ),
        (plane.recorded.publishEntry e).run.run t = (shown, u) ∧
          u.exchanges = t.exchanges ++ [⟨.publish e.key.render e.render, shown⟩] ∧
          Exchange.AnsweredBy plane ⟨.publish e.key.render e.render, shown⟩ :=
      plane.run_call_recorded (.publish e.key.render e.render) t
    obtain ⟨shown, u, published, calls', answered'⟩ := asked
    refine ⟨.found k e shown, u, rfl, .single ?_ ?_, ?_⟩
    · rw [calls', calls, List.append_assoc]
      rfl
    · exact List.forall_mem_cons.mpr ⟨answered, List.forall_mem_singleton.mpr answered'⟩
    · dsimp only
      cases shown with
      | error fault => exact run_bind_error published
      | ok _ => exact run_bind_ok published

/-- What a survey comes to once it has its keys. -/
def Surveys (plane : Plane σ) (keys : List Key) (seen : List (Key × Entry)) (s : Recorded σ)
    (run : Except Fault (List (Key × Entry)) × Recorded σ) : Prop :=
  ∃ looks result, plane.Looked s run.2 looks ∧ Look.Outcome keys looks result ∧
    run.1 = result.map (seen ++ ·)

theorem Surveys.nil {seen : List (Key × Entry)} (same : t.exchanges = s.exchanges) :
    plane.Surveys [] seen s (.ok seen, t) :=
  ⟨[], .ok [], .nil same, @Look.Outcome.complete _ [] rfl nofun,
    congrArg Except.ok (List.append_nil seen).symm⟩

theorem Surveys.cons {seen : List (Key × Entry)} {k : Key}
    {change : Recorded σ → Recorded σ} (unseen : ∀ s, (change s).exchanges = s.exchanges)
    {next : List (Key × Entry) → PlaneM (Recorded σ) (List (Key × Entry))}
    (rest : ∀ seen s, plane.Surveys keys seen s ((next seen).run.run s)) (s : Recorded σ) :
    plane.Surveys (k :: keys) seen s
      ((onFault (plane.recorded.surveyKey seen k) change >>= next).run.run s) := by
  obtain ⟨l, t, rfl, looked, run⟩ := plane.run_surveyKey seen k s
  cases ends : l.end? with
  | some fault =>
    rw [ends] at run
    rw [run_bind_error (run_onFault_error run)]
    exact ⟨[l], .error fault, looked.append (.nil (unseen t)), .of_end ends, rfl⟩
  | none =>
    rw [ends] at run
    rw [run_bind_ok (run_onFault_ok run)]
    obtain ⟨looks, result, looked', outcome, later⟩ := rest (seen ++ l.pair?.toList) t
    refine ⟨l :: looks, _, looked.append looked', outcome.cons ends, later.trans ?_⟩
    cases result with
    | error _ => rfl
    | ok pairs => exact congrArg Except.ok (List.append_assoc ..)

theorem Surveys.of_same {seen : List (Key × Entry)} {run : Except Fault (List (Key × Entry)) × Recorded σ}
    (h : plane.Surveys keys seen t run) (same : t.exchanges = s.exchanges) : plane.Surveys keys seen s run := by
  obtain ⟨looks, result, looked, rest⟩ := h
  exact ⟨looks, result, (Looked.nil same).append looked, rest⟩

theorem surveys_traverse (plane : Plane σ) (bridge : Bridge) (keys : List Key) (s : Recorded σ) :
    plane.Surveys (keys.takeWhile (!·.isEmpty)) [] s
      ((plane.recorded.traverse bridge .table Key.isEmpty keys plane.recorded.surveyKey []).run.run s) := by
  refine plane.recorded.traverse_induction
    (motive := fun seen keys act => ∀ s, plane.Surveys keys seen s (act.run.run s)) rfl ?_ ?_ [] s
  · intro seen polls s
    exact .nil (Recorded.polled_exchanges plane .table (polls s) s)
  · intro seen k rest polls dropped next hnext s
    have unseen (t : Recorded σ) := Recorded.polled_exchanges plane .table (dropped s t) t
    exact .of_same (.cons unseen (hnext s) _) (Recorded.polled_exchanges plane .table (polls s) s)

theorem run_survey (plane : Plane σ) (bridge : Bridge) {s : Recorded σ} {keys : List Key}
    (granted : (plane.answer .keys s.plane).1 = .ok keys) :
    ∃ looks result t, (plane.recorded.survey bridge).run.run s = (result, t) ∧
      t.exchanges = s.exchanges ++ ⟨.keys, .ok keys⟩ :: looks.flatMap Look.exchanges ∧
      (∀ l ∈ looks, ∀ x ∈ l.exchanges, x.AnsweredBy plane) ∧
      Look.Outcome (keys.takeWhile (!·.isEmpty)) looks result := by
  obtain ⟨t, read, calls⟩ : ∃ t, plane.recorded.keys.run.run s = (.ok keys, t) ∧
      t.exchanges = s.exchanges ++ [⟨.keys, .ok keys⟩] :=
    ⟨_, Recorded.run_call (r := .keys) (Prod.ext granted rfl), rfl⟩
  obtain ⟨looks, result, looked, outcome, run⟩ := plane.surveys_traverse bridge keys t
  refine ⟨looks, result, _, (run_bind_ok read).trans (Prod.ext (run.trans ?_) rfl), ?_, looked.answered, outcome⟩
  · cases result with
    | error _ | ok _ => rfl
  · rw [looked.calls, calls, List.append_assoc]
    rfl

end Plane

/-! ### What is published -/

/-- A board that takes what a call publishes, if the call succeeds. -/
def Board.note (b : Board) : Exchange → Board
  | ⟨.publish key value, .ok _⟩ => b.publish key value
  | _ => b

theorem Board.foldl_note {looks : List Look} (shown : ∀ k e shown, Look.found k e shown ∈ looks → shown = .ok ())
    (b : Board) :
    (looks.flatMap Look.exchanges).foldl note b = b.mirror ((looks.filterMap Look.pair?).map (·.2)) := by
  induction looks generalizing b with
  | nil => rfl
  | cons l rest ih =>
    have later := ih fun k e answer member => shown k e answer (List.mem_cons_of_mem l member)
    rw [List.flatMap_cons, List.foldl_append, later]
    cases l with
    | found k e answer =>
      obtain rfl := shown k e answer List.mem_cons_self
      rfl
    | vanished | failed => rfl

/-- The last value of a key stands. -/
theorem Board.mirror_last {before later : List Entry} {e : Entry} (last : ∀ e' ∈ later, e'.key ≠ e.key) (b : Board) :
    (b.mirror (before ++ e :: later)).status[e.key.render]? = some e.render := by
  have other : ∀ k ∈ later.map (·.key), e.key.render ≠ k.render := by
    intro k member same
    obtain ⟨e', later', rfl⟩ := List.mem_map.mp member
    exact last e' later' (Key.render_inj same).symm
  have parts : b.mirror (before ++ e :: later) = ((b.mirror before).publish e.key.render e.render).mirror later := by
    unfold mirror
    rw [List.foldl_append, List.foldl_cons]
  rw [parts, mirror_status_other other, publish_status, if_pos rfl]

namespace Agent

variable {σ : Type} {plane : Plane σ} {s : AgentState σ} {t : σ} {fault : Fault}

theorem run_perform_survey_ok {pairs : List (Key × Entry)}
    (surveyed : (plane.survey s.agent.config.bridge).run.run s.plane = (.ok pairs, t)) (value : String) :
    (perform plane "mac" value).run.run s = (.ok (), ⟨{ s.agent with lastKeys := pairs.map (·.1) }, t⟩) :=
  run_bind_ok (run_onPlane surveyed)

theorem run_perform_survey_error
    (surveyed : (plane.survey s.agent.config.bridge).run.run s.plane = (.error fault, t)) (value : String) :
    (perform plane "mac" value).run.run s = (.error fault, ⟨s.agent, t⟩) :=
  have asked : (getAgent : AgentM σ Agent).run.run s = (.ok s.agent, s) := rfl
  (run_bind_ok asked).trans (run_bind_error (run_onPlane surveyed))

/-- After a fatal failure the options are not read. -/
theorem run_handleOption_fatal {key value : String} {u : AgentState σ}
    (h : (perform plane key value).run.run s = (.error fault, u)) (isFatal : fault.isFatal) :
    (handleOption plane key value).run.run s = (.error fault, u) := by
  have tried : (attempt (perform plane key value)).run.run s = (.ok (.error fault), u) := by rw [run_attempt, h]
  refine (run_bind_ok tried).trans ?_
  dsimp only
  rw [if_pos isFatal]
  rfl

/-- A survey of `keys` that may publish what it likes: the looks tell what came of it. -/
structure Enumerates (plane : Plane σ) (bridge : Bridge) (keys : List Key) (s : Recorded σ) (looks : List Look)
    (result : Except Fault (List (Key × Entry))) (t : Recorded σ) : Prop where
  run : (plane.recorded.survey bridge).run.run s = (result, t)
  calls : t.exchanges = s.exchanges ++ ⟨.keys, .ok keys⟩ :: looks.flatMap Look.exchanges
  shown : ∀ k e shown, Look.found k e shown ∈ looks → shown = .ok ()
  /-- Unless a lookup fails fatally, every key has been looked up. -/
  complete : (∀ k fault, Look.failed k fault ∈ looks → ¬fault.isFatal) →
    Look.IsComplete (keys.takeWhile (!·.isEmpty)) looks result
  /-- A lookup that fails fatally is the last call, and its fault the result. -/
  cut : ∀ k fault, Look.failed k fault ∈ looks → fault.isFatal →
    (∃ before, looks = before ++ [.failed k fault]) ∧ looks.map Look.key <+: keys.takeWhile (!·.isEmpty) ∧
      result = .error fault
  /-- Each entry is written once, in order. -/
  writes : ∀ b : Board, ((looks.flatMap Look.exchanges).foldl Board.note b).writes =
    b.writes ++ (looks.filterMap Look.pair?).map fun p => (p.2.key.render, p.2.render)
  /-- Under a key that is written more than once, the last value stands. -/
  stands : ∀ (b : Board) (before later : List (Key × Entry)) (k : Key) (e : Entry),
    looks.filterMap Look.pair? = before ++ (k, e) :: later → (∀ p ∈ later, p.2.key ≠ e.key) →
      ((looks.flatMap Look.exchanges).foldl Board.note b).status[e.key.render]? = some e.render
  empty : keys.takeWhile (!·.isEmpty) = [] → looks = [] ∧ result = .ok []
  /-- The agent keeps the keys of a survey that is complete. -/
  kept : ∀ pairs, result = .ok pairs → ∀ (a : Agent) (value : String), a.config.bridge = bridge →
    (perform plane.recorded "mac" value).run.run ⟨a, s⟩ = (.ok (), ⟨{ a with lastKeys := pairs.map (·.1) }, t⟩)
  /-- An agent whose survey is cut short does nothing more, and stays as it was. -/
  same : ∀ fault, result = .error fault → ∀ (a : Agent) (value : String), a.config.bridge = bridge →
    a.phase ≠ .disabled → (handle plane.recorded (.option "mac" value)).run.run ⟨a, s⟩ = (.error fault, ⟨a, t⟩)

/-- What a survey does on any plane that takes the values published. -/
theorem survey_enumerates (plane : Plane σ)
    (takes : ∀ key value s, (plane.answer (.publish key value) s).1 = .ok ()) (bridge : Bridge) (s : Recorded σ)
    (keys : List Key) (granted : (plane.answer .keys s.plane).1 = .ok keys) :
    ∃ looks result t, Enumerates plane bridge keys s looks result t := by
  obtain ⟨looks, result, t, run, calls, answered, outcome⟩ := plane.run_survey bridge granted
  have shown : ∀ k e shown, Look.found k e shown ∈ looks → shown = .ok () := by
    intro k e shown member
    obtain ⟨u, answer⟩ := answered _ member _ (List.mem_cons_of_mem _ (List.mem_singleton_self _))
    exact answer.symm.trans (takes _ _ u)
  have taken : ∀ k e fault, Look.found k e (.error fault) ∉ looks := fun k e fault member => by
    cases shown k e _ member
  have fatal : ∀ fault, result = .error fault → fault.isFatal := by
    rintro fault rfl
    obtain ⟨l, member, ends⟩ := outcome.exists_end
    rcases Look.end?_eq_some.mp ends with ⟨k, e, rfl⟩ | ⟨k, rfl, isFatal⟩
    · exact absurd member (taken k e fault)
    · exact isFatal
  refine ⟨looks, result, t,
    { run, calls, shown, complete := fun mild => outcome.isComplete (Look.calm_of taken mild),
      cut := fun k fault member isFatal => outcome.last member (Look.end?_eq_some.mpr (.inr ⟨k, rfl, isFatal⟩)),
      writes := fun b => ?_, stands := fun b before later k e split last => ?_, empty := fun none => ?_,
      kept := ?_, same := ?_ }⟩
  · rw [Board.foldl_note shown, Board.mirror_eq, List.map_map]
    rfl
  · rw [Board.foldl_note shown, split, List.map_append, List.map_cons]
    exact Board.mirror_last (List.forall_mem_map.mpr last) b
  · rw [none] at outcome
    exact outcome.nil
  · rintro pairs rfl a value rfl
    exact run_perform_survey_ok (s := ⟨a, s⟩) run value
  · rintro fault rfl a value rfl working
    rw [handle_of_working _ working]
    exact run_handleOption_fatal (run_perform_survey_error (s := ⟨a, s⟩) run value) (fatal fault rfl)

/-- A plane whose cursor gives one key twice. Its entry changes in between, and the key before is busy. -/
def stutter : Script := fun calls r =>
  match r with
  | .keys => some (.ok [⟨2, .zero⟩, ⟨1, .zero⟩, ⟨1, .zero⟩])
  | .lookup k =>
    if k.vlan = 2 then some (.error (.rejected "mac_entry_status" "busy"))
    else some (.ok (some ⟨k, if calls.length = 2 then .empty else .singleton ⟨"Ethernet3", by decide⟩⟩))
  | .publish .. => some (.ok ())
  | _ => none

theorem survey_enumerates_stutter :
    (∀ key value s, ((Scripted.plane stutter).answer (.publish key value) s).1 = .ok ()) ∧
    ((Scripted.plane stutter).answer .keys { memory := {} }).1 = .ok [⟨2, .zero⟩, ⟨1, .zero⟩, ⟨1, .zero⟩] ∧
    ∃ looks result t, Enumerates (Scripted.plane stutter) .threaded [⟨2, .zero⟩, ⟨1, .zero⟩, ⟨1, .zero⟩]
      { plane := { memory := {} } } looks result t :=
  ⟨fun _ _ _ => rfl, rfl, survey_enumerates (Scripted.plane stutter) (fun _ _ _ => rfl) .threaded
    { plane := { memory := {} } } [⟨2, .zero⟩, ⟨1, .zero⟩, ⟨1, .zero⟩] rfl⟩

end Agent

namespace Plane

variable {σ : Type}

/-- A survey that meets no fatal fault is complete exactly if every value that it publishes is taken. If one is
refused, that is the last call, and its fault the result. -/
theorem survey_complete_iff_taken (plane : Plane σ) (bridge : Bridge) (s : Recorded σ) (keys : List Key)
    (granted : (plane.answer .keys s.plane).1 = .ok keys) :
    ∃ looks result t, (plane.recorded.survey bridge).run.run s = (result, t) ∧
      t.exchanges = s.exchanges ++ ⟨.keys, .ok keys⟩ :: looks.flatMap Look.exchanges ∧
      ((∀ l ∈ looks, ∀ x ∈ l.exchanges, ¬Fatally Exchange.Fails x) →
        (Look.IsComplete (keys.takeWhile (!·.isEmpty)) looks result ↔
          ∀ k e fault, Look.found k e (.error fault) ∉ looks) ∧
        ∀ k e fault, Look.found k e (.error fault) ∈ looks →
          (∃ before, looks = before ++ [.found k e (.error fault)]) ∧ result = .error fault) := by
  obtain ⟨looks, result, t, run, calls, -, outcome⟩ := plane.run_survey bridge granted
  refine ⟨looks, result, t, run, calls, fun quiet => ⟨⟨?_, fun taken => ?_⟩, fun k e fault member => ?_⟩⟩
  · rintro ⟨-, rfl⟩ k e fault member
    obtain ⟨-, -, ended⟩ := outcome.last member (Look.end?_eq_some.mpr (.inl ⟨k, e, rfl⟩))
    cases ended
  · refine outcome.isComplete (Look.calm_of taken fun k fault member isFatal => ?_)
    exact quiet _ member _ (List.mem_singleton_self _) ⟨fault, isFatal, rfl⟩
  · obtain ⟨before, -, ended⟩ := outcome.last member (Look.end?_eq_some.mpr (.inl ⟨k, e, rfl⟩))
    exact ⟨before, ended⟩

theorem survey_complete_iff_taken_stutter :
    ((Scripted.plane Agent.stutter).answer .keys { memory := {} }).1 = .ok [⟨2, .zero⟩, ⟨1, .zero⟩, ⟨1, .zero⟩] ∧
    ∃ looks result t, ((Scripted.plane Agent.stutter).recorded.survey .inline).run.run { plane := { memory := {} } } =
        (result, t) ∧
      t.exchanges = [] ++ ⟨.keys, .ok [⟨2, .zero⟩, ⟨1, .zero⟩, ⟨1, .zero⟩]⟩ :: looks.flatMap Look.exchanges ∧
      ((∀ l ∈ looks, ∀ x ∈ l.exchanges, ¬Fatally Exchange.Fails x) →
        (Look.IsComplete [⟨2, .zero⟩, ⟨1, .zero⟩, ⟨1, .zero⟩] looks result ↔
          ∀ k e fault, Look.found k e (.error fault) ∉ looks) ∧
        ∀ k e fault, Look.found k e (.error fault) ∈ looks →
          (∃ before, looks = before ++ [.found k e (.error fault)]) ∧ result = .error fault) :=
  ⟨rfl, survey_complete_iff_taken (Scripted.plane Agent.stutter) .inline { plane := { memory := {} } }
    [⟨2, .zero⟩, ⟨1, .zero⟩, ⟨1, .zero⟩] rfl⟩

/-- A table with two entries, on a test bed that refuses the first value that is published. -/
def refusing : Tapped where
  plane :=
    { plane := Memory.after [.learn [⟨⟨1, .zero⟩, .empty⟩, ⟨⟨2, .zero⟩, .empty⟩]]
      rules := [{ name := "status_set", times? := some 1, fault := .rejected "status_set" "busy" }] }

/-- The second key is not looked up, although no fault was fatal. -/
theorem refused_value_ends_survey :
    ∃ t, (Rig.plane.survey .inline).run.run refusing = (.error (.rejected "status_set" "busy"), t) ∧
      t.exchanges.map (·.request) = [.keys, .lookup ⟨1, .zero⟩,
        .publish (Key.render ⟨1, .zero⟩) (Entry.render ⟨⟨1, .zero⟩, .empty⟩)] ∧
      ∀ x ∈ t.exchanges, ¬Fatally Exchange.Fails x := by
  refine ⟨_, rfl, rfl, List.forall_mem_cons.mpr ⟨?_, List.forall_mem_cons.mpr ⟨?_, List.forall_mem_singleton.mpr ?_⟩⟩⟩
  · rintro ⟨fault, -, failed⟩
    cases failed
  · rintro ⟨fault, -, failed⟩
    cases failed
  · rintro ⟨fault, isFatal, failed⟩
    cases failed
    cases isFatal

end Plane

end MacAgent
