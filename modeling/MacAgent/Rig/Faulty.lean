import MacAgent.Plane.Basic

/-! # Planes that fail on purpose

A faulty plane makes some requests fail before they reach the plane behind it, and can give keys of
its own in the place of the table's. -/

namespace MacAgent

/-- A rule that makes requests fail. -/
structure FaultRule where
  name : String
  /-- Their argument, if only those with one argument fail. -/
  argument? : Option String := none
  /-- How many such calls are let through first. -/
  skip : Nat := 0
  /-- How many such calls still fail, if not all of them. -/
  times? : Option Nat := none
  fault : Fault

namespace FaultRule

/-- Whether the rule has something to do with a request. -/
def concerns (rule : FaultRule) (r : Request) : Bool :=
  rule.name = r.name && rule.argument?.all (· = r.argument) && rule.times? ≠ some 0

/-- Tries rules in order. A rule that still lets calls through uses up one of these and leaves the
request to the next rule; the first other rule that concerns the request makes it fail. -/
def fire (r : Request) : List FaultRule → Option Fault × List FaultRule
  | [] => (none, [])
  | rule :: rest =>
    if rule.concerns r && rule.skip = 0 then
      (some rule.fault, { rule with times? := rule.times?.map (· - 1) } :: rest)
    else
      let (fault?, rest) := fire r rest
      (fault?, { rule with skip := if rule.concerns r then rule.skip - 1 else rule.skip } :: rest)

end FaultRule

/-- A plane's state, and what stands before it. -/
structure Faulty (σ : Type) where
  plane : σ
  rules : List FaultRule := []
  /-- The keys that are given in the place of the table's. -/
  keys? : Option (List Key) := none

namespace Faulty

variable {σ : Type} (plane : Plane σ)

def relay (r : Request) (s : Faulty σ) : Except Fault r.Answer × Faulty σ :=
  let (answer, inner) := plane.answer r s.plane
  (answer, { s with plane := inner })

/-- Answers a request that no rule makes fail. -/
def serve (r : Request) (s : Faulty σ) : Except Fault r.Answer × Faulty σ :=
  match r, s.keys? with
  | .keys, some keys => (.ok keys, s)
  | r, _ => s.relay plane r

def answer (r : Request) (s : Faulty σ) : Except Fault r.Answer × Faulty σ :=
  let (fault?, rules) := FaultRule.fire r s.rules
  match fault? with
  | some fault => (.error fault, { s with rules })
  | none => serve plane r { s with rules }

end Faulty

def Plane.faulty {σ : Type} (plane : Plane σ) : Plane (Faulty σ) where
  answer := Faulty.answer plane
  polled source polls s := { s with plane := plane.polled source polls s.plane }
  lead s := plane.lead s.plane

end MacAgent
