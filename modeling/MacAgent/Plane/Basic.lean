import MacAgent.Plane.Event
import MacAgent.Plane.Fault

/-! # The management plane

An agent sees the device through two managers: one for its options, its status and its lifecycle,
and one for the MAC table. A call on either is a `Request`; a `Plane` says how a management plane
with states `σ` answers requests. Agents are written against an arbitrary plane: the plane in memory
is one, and so is any plane that records the requests it passes on or makes some of them fail. -/

namespace MacAgent

/-- A call on one of the two managers. -/
inductive Request where
  | option (key : String)
  /-- A cursor over the values of all options. -/
  | optionValues
  /-- The last value published under a status key. -/
  | status (key : String)
  | publish (key value : String)
  /-- Tells the plane that the agent has finished, or not finished, shutting down. -/
  | acknowledge (complete : Bool)
  /-- A cursor over the keys of the table. -/
  | keys
  | lookup (key : Key)
  | install (entry : Entry)
  | delete (key : Key)
  /-- Turns the notifications about entries on or off. -/
  | watch (on : Bool)
deriving DecidableEq

namespace Request

/-- What a successful call returns. A cursor is given by the items it will return, up to the first
of them that marks the end. -/
def Answer : Request → Type
  | option _ | status _ => Option String
  | optionValues => List String
  | keys => List Key
  | lookup _ => Option Entry
  | publish .. | acknowledge _ | install _ | delete _ | watch _ => Unit

def name : Request → String
  | option _ => "agent_option"
  | optionValues => "agent_option_iter"
  | status _ => "status"
  | publish .. => "status_set"
  | acknowledge _ => "agent_shutdown_complete_is"
  | keys => "mac_table_status_iter"
  | lookup _ => "mac_entry_status"
  | install _ => "mac_entry_set"
  | delete _ => "mac_entry_del"
  | watch _ => "watch_all_mac_entries"

/-- The argument that identifies the call among those of its name. It is empty for a call that takes
none. -/
def argument : Request → String
  | option key | status key | publish key _ => key
  | optionValues | keys => ""
  | lookup key | delete key => key.render
  | install entry => entry.key.render
  | acknowledge on | watch on => if on then "true" else "false"

/-- The name of the call, and its argument after a space unless that is empty. -/
def describe (r : Request) : String :=
  if r.argument = "" then r.name else r.name ++ " " ++ r.argument

end Request

/-- The two kinds of cursor that a plane hands out. -/
inductive Source where
  | options
  | table
deriving DecidableEq, Repr

/-- A management plane with states `σ`. -/
structure Plane (σ : Type) where
  /-- How a request is answered, and what becomes of the plane. -/
  answer : (r : Request) → σ → Except Fault r.Answer × σ
  /-- What becomes of the plane when a cursor of the given kind is polled so many times. -/
  polled : Source → Nat → σ → σ := fun _ _ s => s
  /-- How many steps a thread that fills a cursor's channel takes before its reader goes on. -/
  lead : σ → Nat := fun _ => 0

/-- A computation against a plane with states `σ`: it can fail, and keeps the plane's state then. -/
abbrev PlaneM (σ : Type) := ExceptT Fault (StateM σ)

/-- The result of a computation, a fault included, as a value. -/
def attempt {m : Type → Type} [Monad m] {α : Type} (act : ExceptT Fault m α) :
    ExceptT Fault m (Except Fault α) :=
  ExceptT.lift act.run

/-- Where the computation fails, changes the state once more before the fault is passed on. -/
def onFault {σ α : Type} (act : PlaneM σ α) (change : σ → σ) : PlaneM σ α := do
  match ← attempt act with
  | .ok a => return a
  | .error fault =>
    modify change
    throw fault

namespace Plane

variable {σ : Type} (plane : Plane σ)

def call (r : Request) : PlaneM σ r.Answer :=
  ExceptT.mk fun s => plane.answer r s

def option (key : String) : PlaneM σ (Option String) := plane.call (.option key)

def optionValues : PlaneM σ (List String) := plane.call .optionValues

def status (key : String) : PlaneM σ (Option String) := plane.call (.status key)

def publish (key value : String) : PlaneM σ Unit := plane.call (.publish key value)

def acknowledge (complete : Bool) : PlaneM σ Unit := plane.call (.acknowledge complete)

def keys : PlaneM σ (List Key) := plane.call .keys

def lookup (key : Key) : PlaneM σ (Option Entry) := plane.call (.lookup key)

def install (entry : Entry) : PlaneM σ Unit := plane.call (.install entry)

def delete (key : Key) : PlaneM σ Unit := plane.call (.delete key)

def watch (on : Bool) : PlaneM σ Unit := plane.call (.watch on)

end Plane

end MacAgent
