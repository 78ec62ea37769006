import MacAgent.Agent.Batch
import MacAgent.Agent.Survey
import MacAgent.Config.Basic

/-! # The agent

The agent greets by name, publishes the MAC table, installs example entries and clears the table, as
its options ask. It is uninitialized at first, enabled from its initialization on, and disabled for
good once its shutdown has been acknowledged; a disabled agent only counts the table events that
still reach it. -/

namespace MacAgent

inductive Phase where
  | uninitialized
  | enabled
  | disabled
deriving DecidableEq, Repr

def Phase.name : Phase → String
  | uninitialized => "uninitialized"
  | enabled => "enabled"
  | disabled => "disabled"

/-- The options that an agent reacts to. -/
inductive Topic where
  | name
  | survey
  | install
  | clear
deriving DecidableEq, Repr

namespace Topic

def key : Topic → String
  | name => "name"
  | survey => "mac"
  | install => "set"
  | clear => "clear"

def ofKey? (option : String) : Option Topic :=
  [name, survey, install, clear].find? (·.key = option)

end Topic

structure Agent where
  config : Config
  phase : Phase := .uninitialized
  greeted : Option String := none
  /-- The keys of the last complete survey, in the order of the cursor. -/
  lastKeys : List Key := []
  /-- How many table events have arrived. -/
  observed : Nat := 0

/-- An agent at work, and the plane it works with. -/
structure AgentState (σ : Type) where
  agent : Agent
  plane : σ

/-- A computation of an agent: it can fail, and keeps the agent and the plane as they are then. -/
abbrev AgentM (σ : Type) := ExceptT Fault (StateM (AgentState σ))

variable {σ : Type}

/-- A computation of an agent that leaves the agent itself alone. -/
def onPlane {α : Type} (act : PlaneM σ α) : AgentM σ α :=
  ExceptT.mk fun s =>
    let (result, plane) := act.run.run s.plane
    (result, { s with plane })

def updateAgent (f : Agent → Agent) : AgentM σ Unit :=
  modify fun s => { s with agent := f s.agent }

def getAgent : AgentM σ Agent := return (← get).agent

namespace Agent

/-- Builds an agent and, if it is configured so, has it watch the table. -/
def build (plane : Plane σ) (config : Config) : PlaneM σ Agent := do
  if config.watchAll then
    plane.watch true
  return { config }

variable (plane : Plane σ)

/-- Greets a name; the empty one says that there is no name any more. -/
def greet (name : String) : AgentM σ Unit := do
  if name = "" then
    updateAgent fun a => { a with greeted := none }
    onPlane (plane.publishGreeting Greeting.goodbye)
  else
    updateAgent fun a => { a with greeted := some name }
    onPlane (plane.publishGreeting (Greeting.hello name))

def surveyTable : AgentM σ Unit := do
  let seen ← onPlane (plane.survey (← getAgent).config.bridge)
  updateAgent fun a => { a with lastKeys := seen.map (·.1) }

def installExamples : AgentM σ Unit := do
  let report ← onPlane plane.bindExamples
  onPlane (plane.publish StatusKey.installed report.installSummary)

def clearTable : AgentM σ Unit := do
  let report ← onPlane (plane.clearAll (← getAgent).config.bridge)
  onPlane (plane.publish StatusKey.cleared report.clearSummary)

/-- Does what an option asks for; an option of another name asks for nothing. -/
def perform (key value : String) : AgentM σ Unit :=
  match Topic.ofKey? key with
  | some .name => greet plane value
  | some .survey => surveyTable plane
  | some .install => installExamples plane
  | some .clear => clearTable plane
  | none => pure ()

/-- Reads the values of all options, for the record. -/
def reviewOptions : AgentM σ Unit := do
  let values ← onPlane plane.optionValues
  onPlane (plane.traverse (← getAgent).config.bridge .options String.isEmpty values
    (fun _ _ => pure ()) ())

/-- Handles an option, then reads all options. They are read also after a failure, unless it is
fatal; a failure to read them hides the one before. -/
def handleOption (key value : String) : AgentM σ Unit := do
  match ← attempt (perform plane key value) with
  | .ok () => reviewOptions plane
  | .error fault =>
    unless fault.isFatal do
      reviewOptions plane
    throw fault

/-- The agent starts to work: it greets the configured name, or asks for one. -/
def start : AgentM σ Unit := do
  updateAgent fun a => { a with phase := .enabled }
  let name := (← onPlane (plane.option Topic.name.key)).getD ""
  if name = "" then onPlane (plane.publishGreeting Greeting.prompt)
  else handleOption plane Topic.name.key name

def shutDown : AgentM σ Unit := do
  onPlane (plane.publishGreeting Greeting.farewell)
  onPlane (plane.acknowledge true)
  updateAgent fun a => { a with phase := .disabled }

def handle (e : Event) : AgentM σ Unit := do
  let working := (← getAgent).phase ≠ .disabled
  match e with
  | .initialized => if working then start plane
  | .enabled on => if working ∧ !on then shutDown plane
  | .option key value => if working then handleOption plane key value
  | .entrySet _ | .entryDeleted _ => updateAgent fun a => { a with observed := a.observed + 1 }

end Agent

end MacAgent
