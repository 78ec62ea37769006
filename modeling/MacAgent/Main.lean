import MacAgent.Daemon.Launch

/-! # The daemon's command line

The outer layer: it reads the configuration file and the lines of the input as they come, and prints
the log. -/

namespace MacAgent

namespace Shell

/-- What the system's error says about a file. Its number for a path through something that is no
directory is 20, with either sign. -/
def faultOf : IO.Error → FileFault
  | .inappropriateType _ code _ =>
    if code = 20 ∨ 0 - code = 20 then .notDirectory else .isDirectory
  | .invalidArgument .. => .nameTooLong
  | _ => .missing

def readFile (path : String) : IO FileContent := do
  try
    let bytes ← IO.FS.readBinFile path
    return .ok bytes.toList
  catch e => return .error (faultOf e)

/-- The next line of an input, if it has not ended. -/
def readLine (input : IO.FS.Stream) : IO (Option Line) := do
  try
    let line ← input.getLine
    return (Line.ofString line).head?
  catch _ => return some .unreadable

/-- Prints the log lines that a plan lets through. -/
def print (plan : Plan) (lines : List LogLine) : IO Unit :=
  for line in plan.shown lines do
    IO.println (line.level.name ++ " " ++ line.render)

/-- Has the loop deliver what waits and the console read a line, in turns, until one of them ends.
-/
partial def serve (input : IO.FS.Stream) (d : Daemon) : IO (Except Fault Daemon) := do
  match d.drain with
  | .error fault => return .error fault
  | .ok d =>
    if d.isDown || d.closed then return .ok d
    let line? ← readLine input
    serve input { d with input := line?.toList }.read

def run (plan : Plan) : IO UInt8 := do
  let file ← match plan.options.configPath? with
    | some path => readFile path
    | none => pure (.error .missing)
  match plan.config file with
  | .error cause =>
    print plan [.failed cause]
    return 1
  | .ok config =>
    print plan [.configured config]
    let input ← IO.getStdin
    let outcome ← match Daemon.start config plan.options.name? [] with
      | .ok d => serve input d
      | .error fault => pure (.error fault)
    match outcome with
    | .ok d =>
      print plan [.stopped d.summary]
      return 0
    | .error fault =>
      print plan [.failed fault.message]
      return 1

end Shell

end MacAgent

def main (args : List String) : IO UInt32 := do
  match MacAgent.Plan.ofArgs args with
  | .error exitCode => return exitCode.toUInt32
  | .ok plan => return (← MacAgent.Shell.run plan).toUInt32
