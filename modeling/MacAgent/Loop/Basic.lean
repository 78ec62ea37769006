import MacAgent.Plane.Event
import MacAgent.Plane.Fault

/-! # The event loop

Events wait in a queue and are delivered to a host one at a time, in the order in which they were
sent. Events that the host sends while it handles one are queued behind those that wait already. A
delivery that fails is counted, and a fatal failure ends the loop at once, with the rest of the
queue in place. The loop ends when the host has shut down.

A host may send new events for ever, so both ways of running the loop take a bound on the number of
deliveries. -/

namespace MacAgent

/-- What comes of handling one event. -/
structure Reaction (τ : Type) where
  result : Except Fault Unit
  /-- The events sent meanwhile, in order. -/
  raised : List Event
  next : τ

/-- A receiver of events with states `τ`. -/
structure Host (τ : Type) where
  react : Event → τ → Reaction τ
  /-- Whether the host has acknowledged its shutdown. -/
  isDown : τ → Bool

/-- A loop's queue and counters. -/
structure Loop where
  /-- The events that wait, the next one first. -/
  pending : List Event := []
  dispatched : Nat := 0
  /-- How many deliveries failed without being fatal. -/
  failed : Nat := 0
deriving DecidableEq

inductive Stop where
  | down
  | idle
  /-- The queue is closed and empty. -/
  | closed
  | fatal (fault : Fault)
  | bound
deriving DecidableEq

structure Progress (τ : Type) where
  stop : Stop
  /-- How many deliveries were completed without a fatal failure. -/
  delivered : Nat := 0
  loop : Loop
  host : τ

namespace Loop

variable {τ : Type} (host : Host τ)

/-- Puts events at the end of the queue. -/
def send (l : Loop) (events : List Event) : Loop :=
  { l with pending := l.pending ++ events }

/-- Delivers one event; only a fatal failure is a failure of the delivery. -/
def dispatch (e : Event) (s : τ) (l : Loop) : Except Fault Unit × τ × Loop :=
  let r := host.react e s
  let l := { l.send r.raised with dispatched := l.dispatched + 1 }
  match r.result with
  | .ok () => (.ok (), r.next, l)
  | .error fault =>
    if fault.isFatal then (.error fault, r.next, l)
    else (.ok (), r.next, { l with failed := l.failed + 1 })

/-- Delivers up to `bound` of the events that wait and of those raised meanwhile, without waiting
for others. -/
def drain (bound : Nat) (l : Loop) (s : τ) : Progress τ :=
  if host.isDown s then { stop := .down, loop := l, host := s }
  else
    match l.pending with
    | [] => { stop := .idle, loop := l, host := s }
    | e :: rest =>
      match bound with
      | 0 => { stop := .bound, loop := l, host := s }
      | bound + 1 =>
        match dispatch host e s { l with pending := rest } with
        | (.error fault, s, l) => { stop := .fatal fault, loop := l, host := s }
        | (.ok (), s, l) =>
          let p := drain bound l s
          { p with delivered := p.delivered + 1 }

/-- Delivers up to `bound` events until the host is down or a failure is fatal. When no event waits
the loop ends if the queue is closed, and waits for more otherwise. -/
def run (isOpen : Bool) (bound : Nat) (l : Loop) (s : τ) : Progress τ :=
  if host.isDown s then { stop := .down, loop := l, host := s }
  else
    match l.pending with
    | [] => { stop := if isOpen then .idle else .closed, loop := l, host := s }
    | e :: rest =>
      match bound with
      | 0 => { stop := .bound, loop := l, host := s }
      | bound + 1 =>
        match dispatch host e s { l with pending := rest } with
        | (.error fault, s, l) => { stop := .fatal fault, loop := l, host := s }
        | (.ok (), s, l) =>
          let p := run isOpen bound l s
          { p with delivered := p.delivered + 1 }

end Loop

/-- The host without a state that takes every event and does nothing. -/
def Host.quiet : Host Unit where
  react _ _ := { result := .ok (), raised := [], next := () }
  isDown _ := false

end MacAgent
