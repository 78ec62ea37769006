import MacAgent.Config.Basic

/-! # The command line

The command line consists of options with values. A value follows its option as the next argument,
or in the same argument: after an equals sign for a long option, and after an optional equals sign
for a short one. A value in an argument of its own does not begin with a hyphen, unless it is one.
No option may be given twice, and nothing else may stand on the command line. -/

namespace MacAgent

/-- What the daemon is started with. -/
structure Options where
  configPath? : Option String := none
  logFilter : String := "info"
  /-- Replaces the bridge of the configuration. -/
  bridge? : Option Bridge := none
  /-- The initial value of the option to greet a name. -/
  name? : Option String := none
deriving DecidableEq, Repr

/-- Why a command line starts nothing. -/
inductive Refusal where
  | help
  /-- It is no command line of the daemon. -/
  | usage
deriving DecidableEq, Repr

namespace Options

inductive Flag where
  | config
  | logLevel
  | bridge
  | name
  | help
deriving DecidableEq, Repr

namespace Flag

def all : List Flag := [config, logLevel, bridge, name, help]

/-- The name of an option after two hyphens. -/
def long : Flag → String
  | config => "config"
  | logLevel => "log-level"
  | bridge => "cursor-bridge"
  | name => "name"
  | help => "help"

/-- The letter of an option after one hyphen. -/
def short? : Flag → Option Char
  | config => some 'c'
  | logLevel => some 'l'
  | bridge => none
  | name => some 'n'
  | help => some 'h'

end Flag

/-- Options as far as they are read, and which of them were given. -/
structure Reading where
  options : Options := {}
  given : List Flag := []

def Reading.set (r : Reading) (flag : Flag) (value : String) : Except Refusal Reading := do
  if flag ∈ r.given then throw .usage
  let options ← match flag with
    | .config =>
      if value = "" then throw .usage else pure { r.options with configPath? := some value }
    | .logLevel => pure { r.options with logFilter := value }
    | .bridge =>
      match Bridge.ofAnyCase? value with
      | some bridge => pure { r.options with bridge? := some bridge }
      | none => throw .usage
    | .name => pure { r.options with name? := some value }
    | .help => throw .usage
  return { options, given := flag :: r.given }

/-- An argument, by its form. -/
inductive Argument where
  /-- An option, and its value if the argument holds that too. -/
  | flag (flag : Flag) (value? : Option String)
  /-- Two hyphens, after which no options are read. -/
  | last
  /-- It begins like an option but is none. -/
  | unknown
  | plain

/-- The option of this name after two hyphens. -/
def longArgument (text : List Char) : Argument :=
  let name := text.takeWhile (· ≠ '=')
  match Flag.all.find? (·.long.toList = name), text.drop name.length with
  | some flag, [] => .flag flag none
  | some flag, _ :: value => .flag flag (some (String.ofList value))
  | none, _ => .unknown

/-- The option of this letter after one hyphen. Letters after that of the help option are not read,
since help is given at once. -/
def shortArgument (letter : Char) (text : List Char) : Argument :=
  match Flag.all.find? (·.short? = some letter), text with
  | some .help, _ => .flag .help none
  | some flag, [] => .flag flag none
  | some flag, '=' :: value => .flag flag (some (String.ofList value))
  | some flag, value => .flag flag (some (String.ofList value))
  | none, _ => .unknown

def argument (text : String) : Argument :=
  match text.toList with
  | ['-', '-'] => .last
  | '-' :: '-' :: rest => longArgument rest
  | '-' :: letter :: rest => shortArgument letter rest
  | _ => .plain

/-- Reads arguments, the first of which is the value of `pending?` if an option waits for one. -/
def readAll : Option Flag → Reading → List String → Except Refusal Options
  | none, r, [] => .ok r.options
  | some _, _, [] => .error .usage
  | pending?, r, text :: rest =>
    match argument text, pending? with
    | .plain, some flag => do readAll none (← r.set flag text) rest
    | .flag .help none, none => .error .help
    | .flag .help _, _ => .error .usage
    | .flag flag none, none => readAll (some flag) r rest
    | .flag flag (some value), none => do readAll none (← r.set flag value) rest
    | .last, none => if rest.isEmpty then .ok r.options else .error .usage
    | _, _ => .error .usage

def parse (args : List String) : Except Refusal Options := readAll none {} args

end Options

end MacAgent
