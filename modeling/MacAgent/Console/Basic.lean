import MacAgent.Console.Command
import MacAgent.Console.Input
import MacAgent.Memory.Basic

/-! # The console

The console drives an agent from lines of input. Options and lifecycle commands reach the agent as
events; table commands change the table, and reach the agent only if it watches the table. Blank
lines, comments that start with `#`, and lines that are no command are skipped. -/

namespace MacAgent

namespace Console

/-- Whether the console goes on after a command. -/
inductive Verdict where
  | proceed
  | leave
deriving DecidableEq, Repr

/-- Sends an event, if anyone listens to the queue; otherwise the console leaves. -/
def notify (listening : Bool) (e : Event) (m : Memory) : Verdict × Memory :=
  if listening then (.proceed, m.send [e]) else (.leave, m)

/-- The verdict on a command that succeeds without an event of its own. -/
def proceedAfter : Except Fault Unit × Memory → Except Fault Verdict × Memory
  | (result, m) => (result.map fun _ => .proceed, m)

/-- Applies a command. A table command goes to the table manager and fails as it does. An option is
set even if nobody listens any more. -/
def apply (listening : Bool) (c : Command) (m : Memory) : Except Fault Verdict × Memory :=
  let announce (e : Event) (m : Memory) : Except Fault Verdict × Memory :=
    let (verdict, m) := notify listening e m
    (.ok verdict, m)
  match c with
  | .init => announce .initialized m
  | .enable => announce (.enabled true) m
  | .disable => announce (.enabled false) m
  | .option key value =>
    announce (.option key value) { m with board := m.board.setOption key value }
  | .install entry => proceedAfter (m.answer (.install entry))
  | .delete key => proceedAfter (m.answer (.delete key))
  | .exit => (.ok .leave, m)

/-- Whether a line holds no command. -/
def isSkipped (text : List Char) : Bool :=
  (Text.trim text).isEmpty || (Text.trimStart text).head? = some '#'

/-- What a line asks for, if it asks for anything. -/
def request? (text : String) : Option Command :=
  if isSkipped text.toList then none else (Command.parse text).toOption

inductive Outcome where
  | applied
  /-- The line is skipped, or its command failed without ending the input. -/
  | passed
  /-- The rest of the input is ignored. -/
  | ended
deriving DecidableEq, Repr

def step (listening : Bool) (line : Line) (m : Memory) : Outcome × Memory :=
  match line with
  | .unreadable => (.ended, m)
  | .text text =>
    match request? text with
    | none => (.passed, m)
    | some command =>
      match apply listening command m with
      | (.ok .proceed, m) => (.applied, m)
      | (.ok .leave, m) => (.ended, m)
      | (.error fault, m) => (if fault.isFatal then .ended else .passed, m)

/-- Reads lines until one ends the input, and counts the commands applied. -/
def readAll (listening : Bool) : List Line → Memory → Nat × Memory
  | [], m => (0, m)
  | line :: rest, m =>
    match step listening line m with
    | (.ended, m) => (0, m)
    | (.passed, m) => readAll listening rest m
    | (.applied, m) =>
      let (applied, m) := readAll listening rest m
      (applied + 1, m)

structure Closing where
  applied : Nat
  memory : Memory
  stopped : Bool

/-- Reads an input and cancels the stop token, however the input ends. -/
def run (listening : Bool) (input : List Line) (m : Memory) : Closing :=
  let (applied, memory) := readAll listening input m
  { applied, memory, stopped := true }

end Console

end MacAgent
