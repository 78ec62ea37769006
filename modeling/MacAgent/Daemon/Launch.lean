import MacAgent.Config.Yaml
import MacAgent.Daemon.Basic
import MacAgent.Daemon.Options
import MacAgent.Log.Line

/-! # Launching the daemon

The command line is read first, then the log filter it names, then the configuration. What goes
wrong up to the log filter cannot be logged and only shows in the exit code. -/

namespace MacAgent

/-- What an invocation of the daemon leaves behind. -/
structure Transcript where
  exitCode : UInt8
  log : List LogLine := []
deriving DecidableEq

structure Plan where
  options : Options
  filter : Filter

namespace Plan

/-- The plan of a command line, or the exit code if there is none: 0 after help, 2 for a bad command
line, 1 for a malformed log filter, 101 for one that splits a character. -/
def ofArgs (args : List String) : Except UInt8 Plan :=
  match Options.parse args with
  | .error .help => .error 0
  | .error .usage => .error 2
  | .ok options =>
    match Filter.parse options.logFilter with
    | .error .malformed => .error 1
    | .error .splitCharacter => .error 101
    | .ok filter => .ok { options, filter }

/-- A failure to load the configuration: the message, and the cause once more if it comes from the
system. -/
def loadFailure (path : String) (error : ConfigError) : String :=
  "loading " ++ path ++ ": " ++ error.message ++
    match error with
    | .unreadable _ cause => ": " ++ cause.message
    | _ => ""

/-- The configuration of a plan, given what its file holds. The command line has the last word on
the bridge. -/
def config (plan : Plan) (file : FileContent) : Except String Config := do
  let config ← match plan.options.configPath? with
    | some path => (Config.load path file).mapError (loadFailure path)
    | none => pure {}
  return { config with bridge := plan.options.bridge?.getD config.bridge }

def shown (plan : Plan) (lines : List LogLine) : List LogLine :=
  lines.filter (·.isShown plan.filter)

end Plan

def Daemon.summary (d : Daemon) : Summary where
  phase := d.agent.phase
  dispatched := d.loop.dispatched
  failed := d.loop.failed
  observed := d.agent.observed

/-- Runs the daemon of a plan. The loop delivers the first event before the console reads its input.
-/
def Plan.run (plan : Plan) (file : FileContent) (input : List UInt8) : Transcript :=
  match plan.config file with
  | .error cause => { exitCode := 1, log := plan.shown [.failed cause] }
  | .ok config =>
    let outcome := do
      let d ← Daemon.start config plan.options.name? (Line.ofBytes input)
      d.run [.deliver]
    match outcome with
    | .ok d => { exitCode := 0, log := plan.shown [.configured config, .stopped d.summary] }
    | .error fault =>
      { exitCode := 1, log := plan.shown [.configured config, .failed fault.message] }

/-- Runs the daemon of a command line, given what the files hold. -/
def launch (args : List String) (file : String → FileContent) (input : List UInt8) : Transcript :=
  match Plan.ofArgs args with
  | .error exitCode => { exitCode }
  | .ok plan => plan.run ((plan.options.configPath?.map file).getD (.error .missing)) input

end MacAgent
