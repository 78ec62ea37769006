import MacAgent.Config.File
import MacAgent.Cursor.Bridge

/-! # Configuration of an agent -/

namespace MacAgent

structure Config where
  /-- The name under which the agent reports. -/
  tracerName : String := "MacTableIter"
  bridge : Bridge := .inline
  /-- Whether the agent asks to be told of every change of the MAC table. -/
  watchAll : Bool := true
deriving DecidableEq, Repr

/-- Why a configuration cannot be used. -/
inductive ConfigError where
  | unreadable (path : String) (cause : FileFault)
  /-- The text is no document of the expected shape. -/
  | document
  | invalidValue (field reason : String)
  | unknownBridge (name : String)
deriving DecidableEq, Repr

def ConfigError.message : ConfigError → String
  | unreadable path cause => "Failed to read config file " ++ path ++ ": " ++ cause.message
  | document => "Invalid YAML"
  | invalidValue field reason => "Invalid value for '" ++ field ++ "': " ++ reason
  | unknownBridge name =>
    "Unknown cursor bridge '" ++ name ++ "' (expected 'inline' or 'threaded')"

/-- Reads the name of a bridge in any ASCII case. -/
def Bridge.parse (text : String) : Except ConfigError Bridge :=
  match ofAnyCase? text with
  | some bridge => .ok bridge
  | none => .error (.unknownBridge text)

/-- Checks what the types do not: the tracer name must not be blank. -/
def Config.validate (c : Config) : Except ConfigError Unit :=
  if (Text.trim c.tracerName.toList).isEmpty then
    .error (.invalidValue "tracer_name" "must not be empty")
  else .ok ()

end MacAgent
