import MacAgent.Agent.Basic
import MacAgent.Log.Filter

/-! # Log lines

The lines by which the daemon tells how it starts and ends, each with its level and its fields. -/

namespace MacAgent

structure Summary where
  phase : Phase
  dispatched : Nat
  failed : Nat
  observed : Nat
deriving DecidableEq, Repr

/-- The fields of a summary, between spaces. -/
def Summary.render (s : Summary) : String :=
  "state=" ++ s.phase.name ++ " dispatched=" ++ toString s.dispatched ++ " failed=" ++
    toString s.failed ++ " observed=" ++ toString s.observed

/-- The settings of a configuration, under their names and between braces. -/
def Config.render (c : Config) : String :=
  "AgentConfig \x7b tracer_name: " ++ Text.quote c.tracerName ++ ", cursor_bridge: " ++
    (match c.bridge with
      | .inline => "Inline"
      | .threaded => "Threaded") ++
    ", watch_all_mac_entries: " ++ (if c.watchAll then "true" else "false") ++ " \x7d"

/-- A character of a log message. The control characters that could steer a terminal become
escapes; a line feed is not among them. -/
def messageChar (c : Char) : List Char :=
  if ['\x07', '\x08', '\x0c', '\x1b', '\x7f'].contains c then
    ['\\', 'x', Text.hexDigit (c.toNat / 16), Text.hexDigit (c.toNat % 16)]
  else if 0x80 ≤ c.toNat && c.toNat ≤ 0x9F then
    ['\\', 'u', '\x7b'] ++ Text.hex c.toNat ++ ['\x7d']
  else [c]

/-- What the daemon writes into its log. -/
inductive LogLine where
  | configured (config : Config)
  | stopped (summary : Summary)
  | failed (cause : String)
deriving DecidableEq, Repr

namespace LogLine

/-- The target of all lines, which is the daemon's name. -/
def target : String := "mactableiterd"

def level : LogLine → Verbosity
  | configured _ | stopped _ => .info
  | failed _ => .error

def fields : LogLine → List String
  | configured _ => ["message", "config"]
  | stopped _ => ["message", "state", "dispatched", "failed", "observed"]
  | failed _ => ["message"]

def render : LogLine → String
  | configured config => "Configuration loaded config=" ++ config.render
  | stopped summary => "Agent stopped " ++ summary.render
  | failed cause => target ++ " failed: " ++ String.ofList (cause.toList.flatMap messageChar)

/-- The cause that a failure names on its first line, without the blanks at the end of the line. -/
def cause? : LogLine → Option String
  | failed cause =>
    let line := (cause.toList.flatMap messageChar).takeWhile (· ≠ '\n')
    some (String.ofList (Text.trimEnd line))
  | _ => none

def isShown (f : Filter) (line : LogLine) : Bool :=
  f.shows target line.level line.fields

end LogLine

end MacAgent
