import MacAgent.Proofs.Agent.Extension
import MacAgent.Proofs.Agent.Shutdown
import MacAgent.Proofs.Agent.Surfacing
import MacAgent.Proofs.Agent.Survey
import MacAgent.Proofs.Memory.Replay
import MacAgent.Proofs.Plane.Sends

/-! # What each event may touch

Every event has its own part of the status, of the table and of the agent, and leaves the rest alone,
whatever the plane answers and wherever a failure ends its work. -/

namespace MacAgent

def Request.write? : Request → Option (String × String)
  | publish key value => some (key, value)
  | option _ | optionValues | status _ | acknowledge _ | keys | lookup _ | install _ | delete _ | watch _ => none

namespace Exchange

variable {calls calls' : List Exchange} {requests : List Request}

def writes (calls : List Exchange) : List (String × String) := calls.filterMap (·.request.write?)

theorem writes_append (calls calls' : List Exchange) : writes (calls ++ calls') = writes calls ++ writes calls' :=
  List.filterMap_append

theorem writes_eq_nil : writes calls = [] ↔ ∀ x ∈ calls, x.request.write? = none := List.filterMap_eq_nil_iff

theorem request_mem {x : Exchange} (first : calls.map (·.request) <+: requests) (member : x ∈ calls) :
    x.request ∈ requests := first.subset (List.mem_map_of_mem member)

theorem writes_of_first (first : calls.map (·.request) <+: requests) (silent : ∀ r ∈ requests, r.write? = none) :
    writes calls = [] := writes_eq_nil.mpr fun _ member => silent _ (request_mem first member)

/-- Each exchange that needs one comes right after an exchange that fits it. -/
def Preceded (needs : Exchange → Prop) (fits : Exchange → Exchange → Prop) (calls : List Exchange) : Prop :=
  ∀ before x later, calls = before ++ x :: later → needs x → ∃ earlier y, before = earlier ++ [y] ∧ fits y x

namespace Preceded

variable {needs : Exchange → Prop} {fits : Exchange → Exchange → Prop}

theorem of_none (none : ∀ x ∈ calls, ¬needs x) : Preceded needs fits calls := by
  rintro before x later rfl needed
  exact absurd needed (none x (List.mem_append_right _ List.mem_cons_self))

theorem pair {x y : Exchange} (own : ¬needs y) (fit : fits y x) : Preceded needs fits [y, x] := by
  rintro (_ | ⟨y', _ | ⟨z, before⟩⟩) x' later split needed
  · obtain ⟨rfl, -⟩ := List.cons.inj split
    exact absurd needed own
  · obtain ⟨rfl, tail⟩ := List.cons.inj split
    obtain ⟨rfl, -⟩ := List.cons.inj tail
    exact ⟨[], y, rfl, fit⟩
  · simp at split

theorem append (h : Preceded needs fits calls) (h' : Preceded needs fits calls') :
    Preceded needs fits (calls ++ calls') := by
  intro before x later split needed
  rcases List.append_eq_append_iff.mp split with ⟨more, rfl, rest⟩ | ⟨_ | ⟨y, more⟩, first, rest⟩
  · obtain ⟨earlier, y, rfl, fit⟩ := h' more x later rest needed
    exact ⟨calls ++ earlier, y, (List.append_assoc ..).symm, fit⟩
  · -- Nothing comes before the first exchange of the second part.
    obtain ⟨earlier, y, none, -⟩ := h' [] x later rest.symm needed
    simp at none
  · rw [List.cons_append, List.cons.injEq] at rest
    obtain ⟨rfl, -⟩ := rest
    exact h before x more first needed

end Preceded

/-- Whatever is published is an entry, under its key, that was looked up right before. -/
def ShowsFinds (calls : List Exchange) : Prop :=
  Preceded (fun x => x.request.write? ≠ none)
    (fun y x => ∃ k e, y = ⟨.lookup k, .ok (some e)⟩ ∧ x.request = .publish e.key.render e.render) calls

theorem ShowsFinds.of_silent (silent : writes calls = []) : ShowsFinds calls :=
  Preceded.of_none fun x member => not_not_intro (writes_eq_nil.mp silent x member)

theorem showsFinds_look (l : Look) : ShowsFinds l.exchanges := by
  cases l with
  | found k e shown => exact Preceded.pair (not_not_intro rfl) ⟨k, e, rfl, rfl⟩
  | vanished k => exact .of_silent rfl
  | failed k fault => exact .of_silent rfl

theorem showsFinds_looks (looks : List Look) : ShowsFinds (looks.flatMap Look.exchanges) := by
  induction looks with
  | nil => exact .of_silent rfl
  | cons l rest ih =>
    rw [List.flatMap_cons]
    exact Preceded.append (showsFinds_look l) ih

end Exchange

/-- What is published for a name, or in the place of the name that there was. -/
def Greeting.about (name : String) : String := if name = "" then goodbye else hello name

namespace Agent

open Exchange

variable {σ : Type} {plane : Plane σ} {s : AgentState (Recorded σ)} {e : Event} {calls : List Exchange} {a : Agent}

/-! ### What an option asks for -/

def exampleInstalls : List Request := exampleBindings.map fun b => .install (.unicast b.1 b.2)

def deletesOf (keys : List Key) : List Request := (keys.takeWhile (!·.isEmpty)).map .delete

/-- The exchanges of what an option asks for, and the agent after it. -/
inductive Performs (plane : Plane σ) (s : AgentState (Recorded σ)) (value : String) :
    Option Topic → List Exchange → Agent → Prop where
  | nothing : Performs plane s value none [] s.agent
  | greets (answer : Except Fault Unit) :
      Performs plane s value (some .name) [⟨.publish StatusKey.greeting (Greeting.about value), answer⟩]
        { s.agent with greeted := Board.entered value }
  /-- There are no keys to survey. -/
  | surveyUnread (fault : Fault) : Performs plane s value (some .survey) [⟨.keys, .error fault⟩] s.agent
  | surveyFails (keys : List Key) (looks : List Look) :
      Performs plane s value (some .survey) (⟨.keys, .ok keys⟩ :: looks.flatMap Look.exchanges) s.agent
  | surveys (keys : List Key) (looks : List Look) {pairs : List (Key × Entry)} {p : Recorded σ} :
      (plane.recorded.survey s.agent.config.bridge).run.run s.plane = (.ok pairs, p) →
      Performs plane s value (some .survey) (⟨.keys, .ok keys⟩ :: looks.flatMap Look.exchanges)
        { s.agent with lastKeys := pairs.map (·.1) }
  | installFails {calls : List Exchange} :
      calls.map (·.request) <+: exampleInstalls → Performs plane s value (some .install) calls s.agent
  | installs {calls : List Exchange} (text : String) (answer : Except Fault Unit) :
      calls.map (·.request) = exampleInstalls →
      Performs plane s value (some .install) (calls ++ [⟨.publish StatusKey.installed text, answer⟩]) s.agent
  | clearUnread (fault : Fault) : Performs plane s value (some .clear) [⟨.keys, .error fault⟩] s.agent
  | clearFails (keys : List Key) {calls : List Exchange} :
      calls.map (·.request) <+: deletesOf keys →
      Performs plane s value (some .clear) (⟨.keys, .ok keys⟩ :: calls) s.agent
  | clears (keys : List Key) {calls : List Exchange} (text : String) (answer : Except Fault Unit) :
      calls.map (·.request) = deletesOf keys →
      Performs plane s value (some .clear)
        (⟨.keys, .ok keys⟩ :: calls ++ [⟨.publish StatusKey.cleared text, answer⟩]) s.agent

/-- The run of a computation from `s` adds exchanges of which, with the agent after it, `Q` holds. -/
def Adds (s : AgentState (Recorded σ)) (act : AgentM (Recorded σ) Unit) (Q : List Exchange → Agent → Prop) : Prop :=
  ∃ calls, (act.run.run s).2.exchanges = s.exchanges ++ calls ∧ Q calls (act.run.run s).2.agent

theorem adds_greet (plane : Plane σ) (s : AgentState (Recorded σ)) (value : String) :
    Adds s (greet plane.recorded value) (Performs plane s value (some .name)) := by
  have greets (answer : Except Fault Unit) : Performs plane s value (some .name) _ _ := .greets answer
  unfold greet
  by_cases empty : value = ""
  · subst empty
    exact ⟨_, rfl, greets _⟩
  · rw [Greeting.about, if_neg empty, Board.entered_of_ne empty] at greets
    rw [if_neg empty]
    exact ⟨_, rfl, greets _⟩

theorem adds_survey (plane : Plane σ) (s : AgentState (Recorded σ)) (value : String) :
    Adds s (surveyTable plane.recorded) (Performs plane s value (some .survey)) := by
  show Adds s (perform plane.recorded "mac" value) _
  rcases granted : (plane.answer .keys s.plane.plane).1 with fault | keys
  · have unread : (plane.recorded.survey s.agent.config.bridge).run.run s.plane = (.error fault, _) :=
      run_bind_error (Recorded.run_call (r := .keys) (Prod.ext granted rfl))
    unfold Adds
    rw [run_perform_survey_error unread]
    exact ⟨_, rfl, .surveyUnread fault⟩
  · obtain ⟨looks, result, p, run, sent, -, -⟩ := plane.run_survey s.agent.config.bridge granted
    unfold Adds
    cases result with
    | error fault =>
      rw [run_perform_survey_error run]
      exact ⟨_, sent, .surveyFails keys looks⟩
    | ok pairs =>
      rw [run_perform_survey_ok run]
      exact ⟨_, sent, .surveys keys looks run⟩

/-- A batch, and the summary of it that is published unless the batch fails. -/
theorem adds_batch {act : PlaneM (Recorded σ) Report} {key : String} {text : Report → String}
    {result : Except Fault Report} {p : Recorded σ} {Q : List Exchange → Agent → Prop}
    (run : act.run.run s.plane = (result, p)) (sent : p.exchanges = s.exchanges ++ calls)
    (fails : ∀ fault, result = .error fault → Q calls s.agent)
    (succeeds : ∀ report, result = .ok report → ∀ answer, Q (calls ++ [⟨.publish key (text report), answer⟩]) s.agent) :
    Adds s (onPlane act >>= fun report => onPlane (plane.recorded.publish key (text report))) Q := by
  unfold Adds
  cases result with
  | error fault =>
    rw [run_bind_error (run_onPlane run)]
    exact ⟨calls, sent, fails fault rfl⟩
  | ok report =>
    obtain ⟨answer, p', published, said⟩ := Recorded.call_cases plane (.publish key (text report)) p
    have told : (onPlane (plane.recorded.publish key (text report))).run.run { s with plane := p } =
        (answer, { s with plane := p' }) := run_onPlane published
    rw [run_bind_ok (run_onPlane run), told]
    refine ⟨_, ?_, succeeds report rfl answer⟩
    rw [← List.append_assoc, ← sent]
    exact said

theorem adds_install (plane : Plane σ) (s : AgentState (Recorded σ)) (value : String) :
    Adds s (installExamples plane.recorded) (Performs plane s value (some .install)) := by
  obtain ⟨calls, sent, first, all⟩ := Sends.bindAll plane exampleBindings s.plane
  exact adds_batch rfl sent (fun _ _ => .installFails first) fun report done answer =>
    .installs report.installSummary answer (all report done)

theorem adds_clear (plane : Plane σ) (s : AgentState (Recorded σ)) (value : String) :
    Adds s (clearTable plane.recorded) (Performs plane s value (some .clear)) := by
  obtain ⟨answer, p, read, asked⟩ : ∃ (answer : Except Fault (List Key)) (p : Recorded σ),
      plane.recorded.keys.run.run s.plane = (answer, p) ∧
        p.exchanges = s.plane.exchanges ++ [(⟨.keys, answer⟩ : Exchange)] :=
    Recorded.call_cases plane .keys s.plane
  show Adds s (onPlane (plane.recorded.clearAll s.agent.config.bridge) >>= fun report =>
    onPlane (plane.recorded.publish StatusKey.cleared report.clearSummary)) _
  cases answer with
  | error fault =>
    exact adds_batch (run_bind_error read) asked (fun _ _ => .clearUnread fault) nofun
  | ok keys =>
    obtain ⟨calls, sent, first, all⟩ := Sends.deleteAll plane s.agent.config.bridge keys p
    rcases run : (plane.recorded.traverse s.agent.config.bridge .table Key.isEmpty keys
      (fun report k => batchStep (plane.recorded.delete k) k report) {}).run.run p with ⟨result, q⟩
    rw [run] at sent all
    have cleared : (plane.recorded.clearAll s.agent.config.bridge).run.run s.plane = (result, q) :=
      (run_bind_ok read).trans run
    refine adds_batch cleared ?_ (fun _ _ => .clearFails keys first)
      fun report done answer => .clears keys report.clearSummary answer (all report done)
    rw [sent, asked, List.append_assoc]
    rfl

theorem adds_perform (plane : Plane σ) (s : AgentState (Recorded σ)) (key value : String) :
    Adds s (perform plane.recorded key value) (Performs plane s value (Topic.ofKey? key)) := by
  unfold perform
  cases Topic.ofKey? key with
  | none => exact ⟨[], (List.append_nil _).symm, .nothing⟩
  | some topic =>
    cases topic with
    | name => exact adds_greet plane s value
    | survey => exact adds_survey plane s value
    | install => exact adds_install plane s value
    | clear => exact adds_clear plane s value

/-! ### What an event does -/

def Same (a b : Agent) : Prop := b = a

instance : IsPreorder Agent Same where
  refl _ := rfl
  trans _ _ _ h h' := Eq.trans h' h

/-- The exchanges after what an option asks for: the agent looks at its options. -/
def Reviews (calls : List Exchange) : Prop := ∀ x ∈ calls, x.request = .optionValues

theorem adds_handleOption (plane : Plane σ) (s : AgentState (Recorded σ)) (key value : String) :
    Adds s (handleOption plane.recorded key value) fun calls a =>
      ∃ asked reviewed, calls = asked ++ reviewed ∧ Performs plane s value (Topic.ofKey? key) asked a ∧
        Reviews reviewed := by
  obtain ⟨asked, sent, performs⟩ := adds_perform plane s key value
  have reviews : Keeps (Both Same (Recorded.Asked (· = .optionValues))) (reviewOptions plane.recorded) :=
    keeps_reviewOptions (Recorded.heeds plane _) rfl
  unfold Adds handleOption
  rw [run_bind, run_attempt]
  rcases run : (perform plane.recorded key value).run.run s with ⟨result, t⟩
  rw [run] at sent performs
  -- Whatever comes of the option, the agent only reads its options after that.
  have later {u : AgentState (Recorded σ)} (kept : Both Same (Recorded.Asked (· = .optionValues)) t u) :
      ∃ calls, u.exchanges = s.exchanges ++ calls ∧ ∃ asked reviewed, calls = asked ++ reviewed ∧
        Performs plane s value (Topic.ofKey? key) asked u.agent ∧ Reviews reviewed := by
    obtain ⟨same, reviewed, more, all⟩ := kept
    refine ⟨asked ++ reviewed, ?_, asked, reviewed, rfl, same ▸ performs, all⟩
    rw [← List.append_assoc, ← sent]
    exact more
  cases result with
  | ok _ => exact later (reviews t)
  | error fault => exact later (Keeps.ite (.throw fault) (reviews.bind fun _ => .throw fault) t)

/-- The exchanges of an event, and the agent after it. -/
inductive Does (plane : Plane σ) (s : AgentState (Recorded σ)) : Event → List Exchange → Agent → Prop where
  /-- A disabled agent does nothing, and no agent does anything about being enabled. -/
  | nothing (e : Event) : Does plane s e [] s.agent
  | counts {e : Event} : e.IsNotice → Does plane s e [] { s.agent with observed := s.agent.observed + 1 }
  | option (key : String) {value : String} {calls reviewed : List Exchange} {a : Agent} :
      Performs plane s value (Topic.ofKey? key) calls a → Reviews reviewed →
      Does plane s (.option key value) (calls ++ reviewed) a
  | startFails (fault : Fault) :
      Does plane s .initialized [⟨.option Topic.name.key, .error fault⟩] { s.agent with phase := .enabled }
  | prompts (name? : Option String) (answer : Except Fault Unit) : name?.getD "" = "" →
      Does plane s .initialized
        [⟨.option Topic.name.key, .ok name?⟩, ⟨.publish StatusKey.greeting Greeting.prompt, answer⟩]
        { s.agent with phase := .enabled }
  | starts (name : String) (answer : Except Fault Unit) {reviewed : List Exchange} : name ≠ "" → Reviews reviewed →
      Does plane s .initialized
        (⟨.option Topic.name.key, .ok (some name)⟩ ::
          ⟨.publish StatusKey.greeting (Greeting.hello name), answer⟩ :: reviewed)
        { s.agent with phase := .enabled, greeted := some name }
  | shutsDown {calls : List Exchange} {result : Except Fault Unit} {a : Agent} :
      ShutDown s.agent calls result a → Does plane s (.enabled false) calls a

theorem adds_start (plane : Plane σ) (s : AgentState (Recorded σ)) :
    Adds s (start plane.recorded) (Does plane s .initialized) := by
  obtain ⟨answer, p, asked, sent⟩ : ∃ (answer : Except Fault (Option String)) (p : Recorded σ),
      (plane.recorded.option Topic.name.key).run.run s.plane = (answer, p) ∧
        p.exchanges = s.plane.exchanges ++ [(⟨.option Topic.name.key, answer⟩ : Exchange)] :=
    Recorded.call_cases plane (.option Topic.name.key) s.plane
  have read : (onPlane (plane.recorded.option Topic.name.key)).run.run { s with agent.phase := .enabled } =
      (answer, { agent := { s.agent with phase := .enabled }, plane := p }) := run_onPlane asked
  have steps : (start plane.recorded).run.run s = match answer with
      | .error fault => (.error fault, { agent := { s.agent with phase := .enabled }, plane := p })
      | .ok name? =>
        (if name?.getD "" = "" then onPlane (plane.recorded.publishGreeting Greeting.prompt)
          else handleOption plane.recorded Topic.name.key (name?.getD "")).run.run
            { agent := { s.agent with phase := .enabled }, plane := p } := by
    refine (run_bind_ok (a := ()) rfl).trans ?_
    cases answer with
    | error fault => exact run_bind_error read
    | ok name? => exact run_bind_ok read
  unfold Adds
  rw [steps]
  cases answer with
  | error fault => exact ⟨_, sent, .startFails fault⟩
  | ok name? =>
    dsimp only
    by_cases unnamed : name?.getD "" = ""
    · rw [if_pos unnamed]
      obtain ⟨answer, p', published, said⟩ :=
        Recorded.call_cases plane (.publish StatusKey.greeting Greeting.prompt) p
      have told : (onPlane (plane.recorded.publishGreeting Greeting.prompt)).run.run
          { agent := { s.agent with phase := .enabled }, plane := p } =
          (answer, { agent := { s.agent with phase := .enabled }, plane := p' }) := run_onPlane published
      rw [told]
      refine ⟨_, ?_, .prompts name? answer unnamed⟩
      show p'.exchanges = _
      rw [said, sent, List.append_assoc]
      rfl
    · rw [if_neg unnamed]
      obtain ⟨name, rfl⟩ : ∃ name, name? = some name :=
        Option.ne_none_iff_exists'.mp fun none => unnamed (congrArg (Option.getD · "") none)
      obtain ⟨_, more, asked, reviewed, rfl, performs, reviews⟩ := adds_handleOption plane
        { agent := { s.agent with phase := .enabled }, plane := p } Topic.name.key name
      rw [Option.getD_some] at unnamed ⊢
      generalize (handleOption plane.recorded Topic.name.key name).run.run
        { agent := { s.agent with phase := .enabled }, plane := p } = run at more performs ⊢
      rw [show Topic.ofKey? Topic.name.key = some .name by decide] at performs
      replace more : run.2.exchanges = p.exchanges ++ (asked ++ reviewed) := more
      generalize run.2.agent = a at performs ⊢
      cases performs with
      | greets answer =>
        rw [Board.entered_of_ne unnamed]
        refine ⟨_, ?_, .starts name answer unnamed reviews⟩
        rw [more, sent, List.append_assoc, Greeting.about, if_neg unnamed]
        rfl

theorem adds_handle (plane : Plane σ) (s : AgentState (Recorded σ)) (e : Event) :
    Adds s (handle plane.recorded e) (Does plane s e) := by
  by_cases notice : e.IsNotice
  · unfold Adds
    rw [handle_notice plane.recorded notice]
    exact ⟨[], (List.append_nil _).symm, .counts notice⟩
  · by_cases down : s.agent.phase = .disabled
    · unfold Adds
      rw [handle_idle plane.recorded down notice]
      exact ⟨[], (List.append_nil _).symm, .nothing e⟩
    · unfold Adds
      rw [handle_of_working plane.recorded down]
      cases e with
      | initialized => exact adds_start plane s
      | enabled on =>
        cases on with
        | true => exact ⟨[], (List.append_nil _).symm, .nothing _⟩
        | false =>
          obtain ⟨calls, result, t, run, sent, shut⟩ := shutDown_cases plane s
          show Adds s (shutDown plane.recorded) _
          unfold Adds
          rw [run]
          exact ⟨calls, sent, .shutsDown shut⟩
      | option key value =>
        obtain ⟨_, sent, asked, reviewed, rfl, performs, reviews⟩ := adds_handleOption plane s key value
        exact ⟨_, sent, .option key performs reviews⟩
      | entrySet entry => exact absurd (.entrySet entry) notice
      | entryDeleted key => exact absurd (.entryDeleted key) notice

/-! ### What is left alone -/

theorem Reviews.writes_eq_nil {calls : List Exchange} (h : Reviews calls) : writes calls = [] :=
  Exchange.writes_eq_nil.mpr fun x member => by rw [h x member]; rfl

/-- The topic whose work alone sends such a request. -/
def ownerOf? : Request → Option Topic
  | .install _ => some .install
  | .delete _ => some .clear
  | .option _ | .optionValues | .status _ | .publish .. | .acknowledge _ | .keys | .lookup _ | .watch _ => none

theorem ownerOf?_installs {r : Request} (member : r ∈ exampleInstalls) :
    r.write? = none ∧ ownerOf? r = some .install := by
  obtain ⟨b, -, rfl⟩ := List.mem_map.mp member
  exact ⟨rfl, rfl⟩

theorem ownerOf?_deletes (keys : List Key) {r : Request} (member : r ∈ deletesOf keys) :
    r.write? = none ∧ ownerOf? r = some .clear := by
  obtain ⟨k, -, rfl⟩ := List.mem_map.mp member
  exact ⟨rfl, rfl⟩

theorem ownerOf?_looks {looks : List Look} {x : Exchange} (member : x ∈ looks.flatMap Look.exchanges) :
    ownerOf? x.request = none := by
  obtain ⟨l, -, member⟩ := List.mem_flatMap.mp member
  cases l with
  | found k e shown =>
    rcases List.mem_cons.mp member with rfl | member
    · rfl
    · rw [List.mem_singleton.mp member]
      rfl
  | vanished k | failed k fault =>
    rw [List.mem_singleton.mp member]
    rfl

namespace Performs

variable {value : String} {topic? : Option Topic} {x : Exchange} {topic : Topic}

theorem owner (h : Performs plane s value topic? calls a) (member : x ∈ calls)
    (owned : ownerOf? x.request = some topic) : topic? = some topic := by
  have other (none : ownerOf? x.request = none) : topic? = some topic := by
    rw [none] at owned
    cases owned
  cases h with
  | nothing => cases member
  | greets | surveyUnread | clearUnread =>
    obtain rfl := List.mem_singleton.mp member
    cases owned
  | surveyFails keys looks | surveys keys looks run =>
    rcases List.mem_cons.mp member with rfl | member
    · cases owned
    · exact other (ownerOf?_looks member)
  | installFails first => exact (ownerOf?_installs (request_mem first member)).2.symm.trans owned
  | installs text answer all =>
    rcases List.mem_append.mp member with member | member
    · exact (ownerOf?_installs (request_mem (all ▸ List.prefix_rfl) member)).2.symm.trans owned
    · obtain rfl := List.mem_singleton.mp member
      cases owned
  | clearFails keys first =>
    rcases List.mem_cons.mp member with rfl | member
    · cases owned
    · exact (ownerOf?_deletes keys (request_mem first member)).2.symm.trans owned
  | clears keys text answer all =>
    rcases List.mem_append.mp member with member | member
    · rcases List.mem_cons.mp member with rfl | member
      · cases owned
      · exact (ownerOf?_deletes keys (request_mem (all ▸ List.prefix_rfl) member)).2.symm.trans owned
    · obtain rfl := List.mem_singleton.mp member
      cases owned

theorem greeted (h : Performs plane s value topic? calls a) (changed : a.greeted ≠ s.agent.greeted) :
    topic? = some .name := by
  cases h with
  | greets => rfl
  | nothing | surveyUnread | surveyFails | surveys | installFails | installs | clearUnread | clearFails | clears =>
    exact absurd rfl changed

theorem lastKeys (h : Performs plane s value topic? calls a) (changed : a.lastKeys ≠ s.agent.lastKeys) :
    topic? = some .survey ∧ ∃ pairs p,
      (plane.recorded.survey s.agent.config.bridge).run.run s.plane = (.ok pairs, p) ∧
        a.lastKeys = pairs.map (·.1) := by
  cases h with
  | surveys keys looks run => exact ⟨rfl, _, _, run, rfl⟩
  | nothing | greets | surveyUnread | surveyFails | installFails | installs | clearUnread | clearFails | clears =>
    exact absurd rfl changed

theorem observed (h : Performs plane s value topic? calls a) : a.observed = s.agent.observed := by
  cases h with
  | nothing | greets | surveyUnread | surveyFails | surveys | installFails | installs | clearUnread | clearFails
  | clears => rfl

theorem showsFinds (h : Performs plane s value (some .survey) calls a) : ShowsFinds calls := by
  have read (keys : List Key) : ShowsFinds [⟨.keys, .ok keys⟩] := .of_silent rfl
  cases h with
  | surveyUnread fault => exact .of_silent rfl
  | surveyFails keys looks => exact Preceded.append (read keys) (showsFinds_looks looks)
  | surveys keys looks => exact Preceded.append (read keys) (showsFinds_looks looks)

theorem writes_installed (h : Performs plane s value (some .install) calls a) : writes calls = [] ∨
    ∃ batch text answer, calls = batch ++ [⟨.publish StatusKey.installed text, answer⟩] ∧
      batch.map (·.request) = exampleInstalls := by
  cases h with
  | installFails first => exact .inl (writes_of_first first fun r member => (ownerOf?_installs member).1)
  | installs text answer all => exact .inr ⟨_, text, answer, rfl, all⟩

theorem writes_cleared (h : Performs plane s value (some .clear) calls a) : writes calls = [] ∨
    ∃ keys batch text answer,
      calls = ⟨.keys, .ok keys⟩ :: batch ++ [⟨.publish StatusKey.cleared text, answer⟩] ∧
        batch.map (·.request) = deletesOf keys := by
  cases h with
  | clearUnread fault => exact .inl rfl
  | clearFails keys first =>
    have none : ∀ r ∈ .keys :: deletesOf keys, r.write? = none :=
      List.forall_mem_cons.mpr ⟨rfl, fun r member => (ownerOf?_deletes keys member).1⟩
    exact .inl (writes_of_first (List.cons_prefix_cons.mpr ⟨rfl, first⟩) none)
  | clears keys text answer all => exact .inr ⟨keys, _, text, answer, rfl, all⟩

end Performs

end Agent

def Event.topic? : Event → Option Topic
  | option key _ => Topic.ofKey? key
  | initialized | enabled _ | entrySet _ | entryDeleted _ => none

namespace Agent

open Exchange

variable {σ : Type} {plane : Plane σ} {s : AgentState (Recorded σ)} {e : Event} {calls : List Exchange} {a : Agent}

/-- An event touches nothing but its own part of the status, of the table and of the agent. -/
structure Confined (plane : Plane σ) (e : Event) (s : AgentState (Recorded σ)) (calls : List Exchange) (a : Agent) :
    Prop where
  greeting : e = .initialized ∨ (∃ on, e = .enabled on) ∨ e.topic? = some .name →
    (writes calls).length ≤ 1 ∧ ∀ w ∈ writes calls, w.1 = StatusKey.greeting
  survey : e.topic? = some .survey → ShowsFinds calls
  /-- A summary is published once, and only of a batch that was sent as a whole. -/
  install : e.topic? = some .install → writes calls = [] ∨
    ∃ batch text answer rest, calls = batch ++ ⟨.publish StatusKey.installed text, answer⟩ :: rest ∧
      batch.map (·.request) = exampleInstalls ∧ writes rest = []
  clear : e.topic? = some .clear → writes calls = [] ∨
    ∃ keys batch text answer rest,
      calls = ⟨.keys, .ok keys⟩ :: batch ++ ⟨.publish StatusKey.cleared text, answer⟩ :: rest ∧
        batch.map (·.request) = deletesOf keys ∧ writes rest = []
  silent : (∃ key value, e = .option key value ∧ Topic.ofKey? key = none) ∨ e.IsNotice → writes calls = []
  installs : ∀ x ∈ calls, ∀ entry, x.request = .install entry → e.topic? = some .install
  deletes : ∀ x ∈ calls, ∀ k, x.request = .delete k → e.topic? = some .clear
  greeted : a.greeted ≠ s.agent.greeted → e.topic? = some .name ∨
    e = .initialized ∧ ∃ name, name ≠ "" ∧ ⟨.option Topic.name.key, .ok (some name)⟩ ∈ calls
  lastKeys : a.lastKeys ≠ s.agent.lastKeys → e.topic? = some .survey ∧ ∃ pairs p,
    (plane.recorded.survey s.agent.config.bridge).run.run s.plane = (.ok pairs, p) ∧ a.lastKeys = pairs.map (·.1)
  observed : a.observed ≠ s.agent.observed → e.IsNotice

theorem Performs.confined {key value : String} {reviewed : List Exchange}
    (h : Performs plane s value (Topic.ofKey? key) calls a) (reviews : Reviews reviewed) :
    Confined plane (.option key value) s (calls ++ reviewed) a := by
  have same : writes (calls ++ reviewed) = writes calls := by
    rw [writes_append, reviews.writes_eq_nil, List.append_nil]
  have owner (x : Exchange) (member : x ∈ calls ++ reviewed) (topic : Topic) (owned : ownerOf? x.request = some topic) :
      Topic.ofKey? key = some topic := by
    rcases List.mem_append.mp member with member | member
    · exact h.owner member owned
    · rw [reviews x member] at owned
      cases owned
  refine
    { greeting := ?_, survey := fun topic => ?_, install := fun topic => ?_, clear := fun topic => ?_, silent := ?_,
      installs := fun x member entry asked => owner x member .install (by rw [asked]; rfl),
      deletes := fun x member k asked => owner x member .clear (by rw [asked]; rfl),
      greeted := fun changed => .inl (h.greeted changed), lastKeys := h.lastKeys,
      observed := absurd h.observed }
  · rintro (other | ⟨on, other⟩ | topic)
    · cases other
    · cases other
    · rw [show Topic.ofKey? key = some .name from topic] at h
      rw [same]
      cases h with
      | greets answer => exact ⟨Nat.le_refl 1, fun w member => by rw [List.mem_singleton.mp member]⟩
  · rw [show Topic.ofKey? key = some .survey from topic] at h
    exact Preceded.append h.showsFinds (ShowsFinds.of_silent reviews.writes_eq_nil)
  · rw [show Topic.ofKey? key = some .install from topic] at h
    rw [same]
    refine h.writes_installed.imp_right ?_
    rintro ⟨batch, text, answer, rfl, all⟩
    exact ⟨batch, text, answer, reviewed, by simp, all, reviews.writes_eq_nil⟩
  · rw [show Topic.ofKey? key = some .clear from topic] at h
    rw [same]
    refine h.writes_cleared.imp_right ?_
    rintro ⟨keys, batch, text, answer, rfl, all⟩
    exact ⟨keys, batch, text, answer, reviewed, by simp, all, reviews.writes_eq_nil⟩
  · rintro (⟨key', value', same', none⟩ | notice)
    · cases same'
      rw [none] at h
      rw [same]
      cases h
      rfl
    · cases notice

theorem confined_silent (e : Event) (greeted : a.greeted = s.agent.greeted) (lastKeys : a.lastKeys = s.agent.lastKeys)
    (observed : a.observed ≠ s.agent.observed → e.IsNotice) : Confined plane e s [] a where
  greeting _ := ⟨Nat.zero_le 1, List.forall_mem_nil _⟩
  survey _ := .of_silent rfl
  install _ := .inl rfl
  clear _ := .inl rfl
  silent _ := rfl
  installs := List.forall_mem_nil _
  deletes := List.forall_mem_nil _
  greeted := absurd greeted
  lastKeys := absurd lastKeys
  observed := observed

/-- An event of the agent's own lifecycle publishes the greeting at most once. -/
theorem confined_lifecycle (lifecycle : e = .initialized ∨ ∃ on, e = .enabled on)
    (few : (writes calls).length ≤ 1 ∧ ∀ w ∈ writes calls, w.1 = StatusKey.greeting)
    (owned : ∀ x ∈ calls, ownerOf? x.request = none)
    (greeted : a.greeted ≠ s.agent.greeted →
      e = .initialized ∧ ∃ name, name ≠ "" ∧ ⟨.option Topic.name.key, .ok (some name)⟩ ∈ calls)
    (lastKeys : a.lastKeys = s.agent.lastKeys) (observed : a.observed = s.agent.observed) :
    Confined plane e s calls a := by
  have noTopic (topic : Topic) : e.topic? ≠ some topic := by
    intro about
    rcases lifecycle with rfl | ⟨on, rfl⟩
    · cases about
    · cases about
  refine
    { greeting := fun _ => few, survey := (absurd · (noTopic _)), install := (absurd · (noTopic _)),
      clear := (absurd · (noTopic _)), silent := ?_, installs := fun x member entry asked => ?_,
      deletes := fun x member k asked => ?_, greeted := fun changed => .inr (greeted changed),
      lastKeys := absurd lastKeys, observed := absurd observed }
  · rcases lifecycle with rfl | ⟨on, rfl⟩
    · rintro (⟨key, value, ⟨⟩, -⟩ | ⟨⟨⟩⟩)
    · rintro (⟨key, value, ⟨⟩, -⟩ | ⟨⟨⟩⟩)
  · have none := owned x member
    rw [asked] at none
    cases none
  · have none := owned x member
    rw [asked] at none
    cases none

theorem writes_greeting (before after : List Exchange) {text : String} {answer : Except Fault Unit}
    (silent : writes before = []) (silent' : writes after = []) :
    writes (before ++ ⟨.publish StatusKey.greeting text, answer⟩ :: after) = [(StatusKey.greeting, text)] := by
  rw [writes_append, silent]
  exact congrArg ((StatusKey.greeting, text) :: ·) silent'

theorem Does.confined (h : Does plane s e calls a) : Confined plane e s calls a := by
  have once {text : String} (written : writes calls = [(StatusKey.greeting, text)]) :
      (writes calls).length ≤ 1 ∧ ∀ w ∈ writes calls, w.1 = StatusKey.greeting := by
    rw [written]
    exact ⟨Nat.le_refl 1, List.forall_mem_singleton.mpr rfl⟩
  cases h with
  | option key performs reviews => exact performs.confined reviews
  | nothing => exact confined_silent e rfl rfl (absurd rfl)
  | counts notice => exact confined_silent e rfl rfl fun _ => notice
  | startFails fault =>
    refine confined_lifecycle (.inl rfl) ⟨Nat.zero_le 1, List.forall_mem_nil _⟩ ?_ (absurd rfl) rfl rfl
    exact List.forall_mem_singleton.mpr rfl
  | prompts name? answer unnamed =>
    refine confined_lifecycle (.inl rfl) (once (writes_greeting [_] [] rfl rfl)) ?_ (absurd rfl) rfl rfl
    exact List.forall_mem_cons.mpr ⟨rfl, List.forall_mem_singleton.mpr rfl⟩
  | starts name answer named reviews =>
    refine confined_lifecycle (.inl rfl) (once (writes_greeting [_] _ rfl reviews.writes_eq_nil)) ?_
      (fun _ => ⟨rfl, name, named, List.mem_cons_self⟩) rfl rfl
    refine List.forall_mem_cons.mpr ⟨rfl, List.forall_mem_cons.mpr ⟨rfl, fun x member => ?_⟩⟩
    rw [reviews x member]
    rfl
  | shutsDown shut =>
    cases shut with
    | farewellFails fault =>
      refine confined_lifecycle (.inr ⟨false, rfl⟩) (once (writes_greeting [] [] rfl rfl)) ?_ (absurd rfl) rfl rfl
      exact List.forall_mem_singleton.mpr rfl
    | acknowledgementFails fault | done =>
      refine confined_lifecycle (.inr ⟨false, rfl⟩) (once (writes_greeting [] [_] rfl rfl)) ?_ (absurd rfl) rfl rfl
      exact List.forall_mem_cons.mpr ⟨rfl, List.forall_mem_singleton.mpr rfl⟩

theorem recorded_extends (plane : Plane σ) : plane.recorded.Extends Recorded.plane plane where
  answer _ _ := rfl
  polled source n t := by
    cases source with
    | options | table => rfl
  lead _ := rfl

/-- What can be relied on of the events that an agent handles on a plane. -/
structure StaysInScope (plane : Plane σ) : Prop where
  /-- That the exchanges are kept changes nothing else. -/
  plain : ∀ e (s : AgentState (Recorded σ)), (handle plane e).run.run (s.map Recorded.plane) =
    (((handle plane.recorded e).run.run s).1, ((handle plane.recorded e).run.run s).2.map Recorded.plane)
  confined : ∀ e (s : AgentState (Recorded σ)), ∃ calls,
    ((handle plane.recorded e).run.run s).2.exchanges = s.exchanges ++ calls ∧
      Confined plane e s calls ((handle plane.recorded e).run.run s).2.agent
  /-- The status of a board in memory is that of the last writes. -/
  replayed : ∀ memory collect, plane.Holds memory collect → ∀ s, Runs plane memory s → ∀ key : String,
    (memory s.plane).board.status[key]? = Board.lastWrite? (memory s.plane).board.writes key

theorem stays_in_scope (plane : Plane σ) : StaysInScope plane where
  plain e s := projects_handle (recorded_extends plane) e s
  confined e s := by
    obtain ⟨calls, sent, does⟩ := adds_handle plane s e
    exact ⟨calls, sent, does.confined⟩
  replayed _ _ holds _ runs := runs.isReplay holds

/-- Clearing a table with a locked key tries all its keys, and publishes the summary once. -/
example :
    let entry (vlan : UInt16) : Entry := ⟨⟨vlan, .zero⟩, .empty⟩
    let m : Memory := { table := { entries := [entry 1, entry 2], locked := [(entry 1).key] } }
    let t := ((handle Memory.plane.recorded (.option "clear" "on")).run.run
      { agent := { config := {} }, plane := { plane := m } }).2
    writes t.exchanges = [("mac_clear", "cleared 1 of 2 entries (1 failed)")] ∧
      t.exchanges.map (·.request) =
        [.keys, .delete ⟨1, .zero⟩, .delete ⟨2, .zero⟩, .publish "mac_clear" "cleared 1 of 2 entries (1 failed)",
          .optionValues] := by
  decide +kernel

end Agent

end MacAgent
