import MacAgent.Value.Entry

/-! # Commands

A line of the console is one command: a word and its arguments, between blanks. The value of an
option is the rest of its line and may hold blanks itself; the interfaces of an entry are one
argument, separated by commas. The number of arguments is checked before their values, and the
interfaces before the key. -/

namespace MacAgent

inductive Command where
  | init
  | enable
  | disable
  /-- Sets an option; the empty value removes it. -/
  | option (key value : String)
  /-- Installs an entry as the device does. -/
  | install (entry : Entry)
  /-- Deletes an entry as the device does. -/
  | delete (key : Key)
  | exit
deriving DecidableEq

/-- Why a line is no command. -/
inductive CommandError where
  | empty
  | unknown (word : String)
  | missingArgument (command argument : String)
  | tooManyArguments (command : String)
  /-- An argument is no value of its kind. -/
  | format (error : FormatError)
deriving DecidableEq, Repr

def CommandError.message : CommandError → String
  | empty => "Empty command"
  | unknown word => "Unknown command '" ++ word ++ "'"
  | missingArgument command argument => "'" ++ command ++ "' needs <" ++ argument ++ ">"
  | tooManyArguments command => "Too many arguments for '" ++ command ++ "'"
  | format error => error.message

namespace Command

/-- The command that stands alone in its line, whose error messages call it `name`. -/
def alone (name : String) (command : Command) (args : List String) : Except CommandError Command :=
  if args.isEmpty then .ok command else .error (.tooManyArguments name)

/-- A failure to read a value, as a failure to read a command. -/
def value {α : Type} : Except FormatError α → Except CommandError α :=
  Except.mapError .format

/-- An option command from the text after its word. -/
def parseOption (rest : List Char) : Except CommandError Command :=
  let (key, value) := Text.cut rest
  if key.isEmpty then .error (.missingArgument "option" "key")
  else .ok (.option (String.ofList key) (String.ofList (Text.trim value)))

def parseInstall : List String → Except CommandError Command
  | [] => .error (.missingArgument "mac-set" "vlan")
  | [_] => .error (.missingArgument "mac-set" "addr")
  | [_, _] => .error (.missingArgument "mac-set" "intf")
  | [vlan, address, interfaces] => value do
    let names := (Text.splitAtEach (· == ',') interfaces.toList).map String.ofList
    let interfaces ← names.mapM Interface.ofName
    let key ← Key.parse vlan address
    return .install (.multicast key interfaces)
  | _ => .error (.tooManyArguments "mac-set")

def parseDelete : List String → Except CommandError Command
  | [] => .error (.missingArgument "mac-del" "vlan")
  | [_] => .error (.missingArgument "mac-del" "addr")
  | [vlan, address] => value (return .delete (← Key.parse vlan address))
  | _ => .error (.tooManyArguments "mac-del")

def parse (line : String) : Except CommandError Command :=
  let (word, rest) := Text.cut (Text.trim line.toList)
  let rest := Text.trim rest
  let args := (Text.words rest).map String.ofList
  match String.ofList word with
  | "" => .error .empty
  | "init" => alone "init" .init args
  | "enable" => alone "enable" .enable args
  | "disable" => alone "disable" .disable args
  | "exit" | "quit" => alone "exit" .exit args
  | "option" => parseOption rest
  | "mac-set" => parseInstall args
  | "mac-del" => parseDelete args
  | word => .error (.unknown word)

end Command

end MacAgent
