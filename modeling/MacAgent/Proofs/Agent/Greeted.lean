import MacAgent.Proofs.Agent.Scope
import MacAgent.Proofs.Rig.Greeting

/-! # The name that is greeted and the greeting that shows

An agent takes note of a name before it publishes the greeting, and keeps it when it asks for a name or says
farewell. So the greeting that shows need not be that of the name: it is if the plane took it, or showed it
already, and has taken no other since. -/

namespace MacAgent

namespace Greeting

theorem hello_ne_prompt (name : String) : hello name ≠ prompt := by
  intro same
  have first := congrArg (·.toList.take 1) same
  simp [hello, prompt] at first

theorem hello_ne_farewell (name : String) : hello name ≠ farewell := by
  intro same
  have first := congrArg (·.toList.take 1) same
  simp [hello, farewell] at first

theorem about_ne_prompt (name : String) : about name ≠ prompt := by
  unfold about
  split
  · decide
  · exact hello_ne_prompt name

end Greeting

namespace Exchange

variable {calls calls' : List Exchange}

/-- The greeting that an exchange has made the one that shows. -/
def taken? : Exchange → Option String
  | ⟨.publish key value, .ok _⟩ => if key = StatusKey.greeting then some value else none
  | _ => none

def shown? (calls : List Exchange) : Option String := (calls.filterMap taken?).getLast?

@[simp]
theorem shown?_append (calls calls' : List Exchange) : shown? (calls ++ calls') = (shown? calls').or (shown? calls) := by
  unfold shown?
  rw [List.filterMap_append, List.getLast?_append]

theorem shown?_singleton (x : Exchange) : shown? [x] = x.taken? := by
  unfold shown?
  cases taken : x.taken? with
  | none => simp [taken]
  | some text => simp [taken]

theorem shown?_eq_none : shown? calls = none ↔ ∀ x ∈ calls, x.taken? = none := by
  unfold shown?
  rw [List.getLast?_eq_none_iff, List.filterMap_eq_nil_iff]

theorem exists_of_shown? {text : String} (h : shown? calls = some text) :
    ∃ x ∈ calls, x.request = .publish StatusKey.greeting text := by
  obtain ⟨x, member, taken⟩ := List.mem_filterMap.mp (List.mem_of_getLast? h)
  refine ⟨x, member, ?_⟩
  unfold taken? at taken
  split at taken
  · split at taken
    · rename_i key value _ same
      rw [same, Option.some.inj taken]
    · cases taken
  · cases taken

/-- Neither a name nor a removal is published. -/
def IsNameless (x : Exchange) : Prop :=
  ∀ text, x.request = .publish StatusKey.greeting text → text = Greeting.prompt ∨ text = Greeting.farewell

theorem isNameless_of_isNoGreeting {x : Exchange} (silent : Memory.IsNoGreeting x.request) : x.IsNameless :=
  fun text same => absurd same (silent text)

/-- Of all names and removals, this name was published last: after some exchanges, with some answer, and
before some others. -/
structure NamesLast (name : String) (before : List Exchange) (answer : Except Fault Unit) (later : List Exchange)
    (calls : List Exchange) : Prop where
  split : calls = before ++ ⟨.publish StatusKey.greeting (Greeting.hello name), answer⟩ :: later
  nameless : ∀ x ∈ later, x.IsNameless

namespace NamesLast

variable {name : String} {before later : List Exchange} {answer : Except Fault Unit}

theorem append (h : NamesLast name before answer later calls) (nameless : ∀ x ∈ calls', x.IsNameless) :
    NamesLast name before answer (later ++ calls') (calls ++ calls') where
  split := by rw [h.split, List.append_assoc, List.cons_append]
  nameless x member := (List.mem_append.mp member).elim (h.nameless x) (nameless x)

/-- The name shows if it was taken, or was there already, and nothing was taken since. -/
theorem shown?_iff (h : NamesLast name before answer later calls) :
    shown? calls = some (Greeting.hello name) ↔
      (answer = .ok () ∨ shown? before = some (Greeting.hello name)) ∧ ∀ x ∈ later, x.taken? = none := by
  have other : shown? later ≠ some (Greeting.hello name) := by
    intro shown
    obtain ⟨x, member, request⟩ := exists_of_shown? shown
    rcases h.nameless x member _ request with same | same
    · exact Greeting.hello_ne_prompt name same
    · exact Greeting.hello_ne_farewell name same
  rw [h.split, List.append_cons, shown?_append, shown?_append, shown?_singleton, ← shown?_eq_none]
  cases shown : shown? later with
  | some text =>
    rw [shown] at other
    simpa using fun same => other (congrArg some same)
  | none =>
    cases answer with
    | ok _ => simp [taken?]
    | error fault => simp [taken?]

end NamesLast

end Exchange

namespace Agent

open Exchange
open Memory (IsNoGreeting)

variable {σ : Type} {plane : Plane σ} {s : AgentState (Recorded σ)} {calls calls' : List Exchange} {name : String}
  {name? : Option String}

/-- What an agent has exchanged with its plane, and the name that it greets then. -/
inductive History : List Exchange → Option String → Prop where
  | start : History [] none
  | silent {calls calls' : List Exchange} {name? : Option String} :
      History calls name? → (∀ x ∈ calls', IsNoGreeting x.request) → History (calls ++ calls') name?
  | names {calls : List Exchange} {name? : Option String} (name : String) (answer : Except Fault Unit) :
      History calls name? →
      History (calls ++ [⟨.publish StatusKey.greeting (Greeting.about name), answer⟩]) (Board.entered name)
  /-- There is no name in the store. -/
  | prompts {calls : List Exchange} {name? : Option String} (stored? : Option String) (answer : Except Fault Unit) :
      History calls name? → stored?.getD "" = "" →
      History (calls ++ [⟨.option Topic.name.key, .ok stored?⟩,
        ⟨.publish StatusKey.greeting Greeting.prompt, answer⟩]) name?
  | farewell {calls : List Exchange} {name? : Option String} (answer : Except Fault Unit) :
      History calls name? → History (calls ++ [.farewell answer]) name?

theorem Reviews.isNoGreeting (reviews : Reviews calls) : ∀ x ∈ calls, IsNoGreeting x.request := by
  intro x member text same
  rw [reviews x member] at same
  cases same

theorem History.named {performed : List Exchange} {value : String} {a : Agent}
    (h : History s.exchanges s.agent.greeted) (performs : Performs plane s value (some .name) performed a)
    (reviews : Reviews calls) : History (s.exchanges ++ (performed ++ calls)) a.greeted := by
  rw [← List.append_assoc]
  cases performs with
  | greets answer => exact .silent (.names value answer h) reviews.isNoGreeting

theorem History.started {a : Agent} (h : History s.exchanges s.agent.greeted)
    (does : Does plane s .initialized calls a) : History (s.exchanges ++ calls) a.greeted := by
  have asks (answer : Except Fault (Option String)) :
      History (s.exchanges ++ [⟨.option Topic.name.key, answer⟩]) s.agent.greeted := by
    refine .silent h (List.forall_mem_singleton.mpr ?_)
    rintro text ⟨⟩
  cases does with
  | nothing => exact .silent h (List.forall_mem_nil _)
  | counts notice => cases notice
  | startFails fault => exact asks _
  | prompts stored? answer unnamed => exact .prompts stored? answer h unnamed
  | starts name answer named reviews =>
    have greets := History.names name answer (asks (.ok (some name)))
    rw [Greeting.about, if_neg named, Board.entered_of_ne named] at greets
    have reviewed := greets.silent reviews.isNoGreeting
    rw [List.append_assoc, List.append_assoc] at reviewed
    exact reviewed

theorem History.shutDown {result : Except Fault Unit} {a : Agent} (h : History s.exchanges s.agent.greeted)
    (shut : ShutDown s.agent calls result a) : History (s.exchanges ++ calls) a.greeted := by
  have acknowledges (answer : Except Fault Unit) :
      History (s.exchanges ++ [.farewell (.ok ()), .acknowledgement answer]) s.agent.greeted := by
    have silent : ∀ x ∈ [acknowledgement answer], IsNoGreeting x.request := by
      refine List.forall_mem_singleton.mpr ?_
      rintro text ⟨⟩
    have done := (h.farewell (.ok ())).silent silent
    rw [List.append_assoc] at done
    exact done
  cases shut with
  | farewellFails fault => exact h.farewell _
  | acknowledgementFails fault | done => exact acknowledges _

theorem History.handle (h : History s.exchanges s.agent.greeted) (e : Event) :
    History ((handle plane.recorded e).run.run s).2.exchanges
      ((handle plane.recorded e).run.run s).2.agent.greeted := by
  by_cases down : s.agent.phase = .disabled
  · obtain ⟨n, run⟩ := handle_of_disabled plane.recorded down e
    rw [run]
    exact h
  rw [handle_of_working _ down]
  rcases carried : e.name? with _ | name
  · by_cases initial : e = .initialized
    · subst initial
      obtain ⟨calls, sent, does⟩ := adds_start plane s
      exact sent ▸ h.started does
    by_cases disabling : e = .enabled false
    · subst disabling
      obtain ⟨calls, result, t, run, sent, shut⟩ := shutDown_cases plane s
      rw [show (respond plane.recorded (.enabled false)).run.run s = (result, t) from run]
      show History t.plane.exchanges t.agent.greeted
      rw [sent]
      exact h.shutDown shut
    obtain ⟨same, calls, sent, silent⟩ :=
      keeps_greeting (Recorded.heeds plane IsNoGreeting) carried initial disabling s
    rw [same, AgentState.exchanges, sent]
    exact h.silent silent
  · obtain rfl := Event.eq_of_name? carried
    obtain ⟨_, sent, performed, reviewed, rfl, performs, reviews⟩ :=
      adds_handleOption plane s Topic.name.key name
    exact sent ▸ h.named performs reviews

theorem Reachable.history (reached : Reachable plane s) : History s.exchanges s.agent.greeted := by
  induction reached with
  | @built config x agent t built =>
    obtain rfl := build_eq_ok built
    obtain ⟨calls, sent, silent⟩ :=
      keeps_build (Recorded.heeds plane IsNoGreeting) nofun config { plane := x }
    rw [built] at sent
    show History t.exchanges none
    rw [show t.exchanges = [] ++ calls from sent]
    exact .silent .start silent
  | handled e _ ih => exact ih.handle e
  | elsewhere x _ ih => exact ih

theorem History.namesLast (h : History calls name?) :
    ∀ name, name? = some name → ∃ before answer later, NamesLast name before answer later calls := by
  induction h with
  | start => rintro name ⟨⟩
  | @silent calls calls' name? _ silent ih =>
    intro name greeted
    obtain ⟨before, answer, later, last⟩ := ih name greeted
    exact ⟨_, _, _, last.append fun x member => isNameless_of_isNoGreeting (silent x member)⟩
  | @names calls name? value answer _ _ =>
    intro name greeted
    unfold Board.entered at greeted
    split at greeted
    · cases greeted
    · rename_i full
      obtain rfl := Option.some.inj greeted
      rw [Greeting.about, if_neg full]
      exact ⟨calls, answer, [], rfl, List.forall_mem_nil _⟩
  | prompts stored? answer _ _ ih =>
    intro name greeted
    obtain ⟨before, answer', later, last⟩ := ih name greeted
    refine ⟨_, _, _, last.append (List.forall_mem_cons.mpr ⟨?_, List.forall_mem_singleton.mpr ?_⟩)⟩
    · rintro text ⟨⟩
    · exact fun text same => .inl (Request.publish.inj same).2.symm
  | farewell answer _ ih =>
    intro name greeted
    obtain ⟨before, answer', later, last⟩ := ih name greeted
    refine ⟨_, _, _, last.append (List.forall_mem_singleton.mpr ?_)⟩
    exact fun text same => .inr (Request.publish.inj same).2.symm

/-- The agent asks for a name right after it has found none in the store. -/
def AsksUnnamed (calls : List Exchange) : Prop :=
  Preceded (fun x => x.request = .publish StatusKey.greeting Greeting.prompt)
    (fun y _ => ∃ stored?, y = ⟨.option Topic.name.key, .ok stored?⟩ ∧ stored?.getD "" = "") calls

theorem History.asksUnnamed (h : History calls name?) : AsksUnnamed calls := by
  induction h with
  | start => exact .of_none (List.forall_mem_nil _)
  | silent _ silent ih => exact ih.append (.of_none fun x member => silent x member _)
  | names name answer _ ih =>
    refine ih.append (.of_none (List.forall_mem_singleton.mpr fun same => ?_))
    exact Greeting.about_ne_prompt name (Request.publish.inj same).2
  | prompts stored? answer _ unnamed ih => exact ih.append (.pair nofun ⟨stored?, rfl, unnamed⟩)
  | farewell answer _ ih =>
    refine ih.append (.of_none (List.forall_mem_singleton.mpr fun same => ?_))
    exact absurd (Request.publish.inj same).2 (by decide)

/-- What an agent that greets a name has published. -/
structure GreetsName (s : AgentState (Recorded σ)) (name : String) : Prop where
  shows : ∃ before answer later, NamesLast name before answer later s.exchanges ∧
    (shown? s.exchanges = some (Greeting.hello name) ↔
      (answer = .ok () ∨ shown? before = some (Greeting.hello name)) ∧ ∀ x ∈ later, x.taken? = none)
  asksUnnamed : AsksUnnamed s.exchanges
  /-- After a farewell that was taken, the acknowledgement was not. -/
  unacknowledged : s.agent.phase ≠ .disabled → ∀ x ∈ s.exchanges, x.isAcknowledged = false

/-- The greeting that shows is that of the name unless it was refused, or a prompt or a farewell came after it. -/
theorem greeting_stands_iff (reached : Reachable plane s) (greeted : s.agent.greeted = some name) :
    GreetsName s name where
  shows := by
    obtain ⟨before, answer, later, last⟩ := reached.history.namesLast name greeted
    exact ⟨before, answer, later, last, last.shown?_iff⟩
  asksUnnamed := reached.history.asksUnnamed
  unacknowledged working x member := by
    have count := reached.acknowledges.count
    rw [if_neg working] at count
    exact Bool.eq_false_iff.mpr (List.countP_eq_zero.mp count x member)

theorem greeting_stands_for_ann :
    ∃ s, Reachable Memory.plane s ∧ s.agent.greeted = some "Ann" ∧ GreetsName s "Ann" ∧
      shown? s.exchanges = some (Greeting.hello "Ann") :=
  have reached : Reachable Memory.plane _ := .built { watchAll := false } {} rfl
  have named := reached.handled (.option "name" "Ann")
  ⟨_, named, rfl, greeting_stands_iff named rfl, by decide +kernel⟩

/-- The greeting lags behind the name after an initialization without a name in the store, and after a write
that was refused. -/
theorem greeting_lags_behind_name :
    (∃ s, Reachable Memory.plane s ∧ s.agent.phase = .enabled ∧ (∀ x ∈ s.exchanges, ¬Fatally Exchange.Fails x) ∧
      s.agent.greeted = some "Ann" ∧ shown? s.exchanges = some Greeting.prompt) ∧
    ∃ s, Reachable Memory.plane.faulty s ∧ s.agent.phase ≠ .disabled ∧ (∀ x ∈ s.exchanges, ¬Fatally Exchange.Fails x) ∧
      s.agent.greeted = some "Ann" ∧ shown? s.exchanges = none := by
  have quiet {r : Request} {a : r.Answer} : ¬Fatally Exchange.Fails ⟨r, .ok a⟩ := by
    rintro ⟨fault, -, failed⟩
    cases failed
  constructor
  · have reached : Reachable Memory.plane _ := .built { watchAll := false } {} rfl
    refine ⟨_, (reached.handled (.option "name" "Ann")).handled .initialized, rfl, ?_, rfl, by decide +kernel⟩
    exact List.forall_mem_cons.mpr ⟨quiet, List.forall_mem_cons.mpr ⟨quiet, List.forall_mem_cons.mpr
      ⟨quiet, List.forall_mem_singleton.mpr quiet⟩⟩⟩
  · have reached : Reachable Memory.plane.faulty _ := .built { watchAll := false }
      { plane := {}, rules := [{ name := "status_set", times? := some 1, fault := .rejected "status_set" "busy" }] } rfl
    refine ⟨_, reached.handled (.option "name" "Ann"), by decide +kernel, ?_, rfl, by decide +kernel⟩
    refine List.forall_mem_cons.mpr ⟨?_, List.forall_mem_singleton.mpr quiet⟩
    rintro ⟨fault, isFatal, failed⟩
    cases failed
    cases isFatal

end Agent

end MacAgent
