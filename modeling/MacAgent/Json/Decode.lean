import MacAgent.Config.Basic
import MacAgent.Json.Basic
import MacAgent.Value.Entry

/-! # Values from JSON

Reading accepts more than printing gives: addresses in any written form, interfaces in any order,
and arrays that list the parts of a structure in the order of its declaration. The parts of an
object are read in the order of their names and the first bad one is the error; what is missing is
found after that. Keys and entries may carry further fields, which are ignored; configurations may
not, and a field that a configuration leaves out has its default. -/

namespace MacAgent

/-- Why a JSON value is no value of the type asked for. -/
inductive DecodeError where
  /-- A text is no value of its kind. -/
  | format (error : FormatError)
  /-- The value found is of another type. -/
  | invalidType (found expected : String)
  /-- The value found is out of range. -/
  | invalidValue (found expected : String)
  | invalidLength (found : Nat) (expected : String)
  | missingField (name : String)
  | unknownField (name : String) (known : List String)
  | unknownVariant (name : String) (known : List String)
deriving DecidableEq, Repr

namespace DecodeError

/-- A name between backticks. -/
def ticked (name : String) : String := "`" ++ name ++ "`"

def message : DecodeError → String
  | format error => error.message
  | invalidType found expected => "invalid type: " ++ found ++ ", expected " ++ expected
  | invalidValue found expected => "invalid value: " ++ found ++ ", expected " ++ expected
  | invalidLength found expected =>
    "invalid length " ++ toString found ++ ", expected " ++ expected
  | missingField name => "missing field " ++ ticked name
  | unknownField name known =>
    "unknown field " ++ ticked name ++ ", expected one of " ++
      ", ".intercalate (known.map ticked)
  | unknownVariant name known =>
    "unknown variant " ++ ticked name ++ ", expected " ++ " or ".intercalate (known.map ticked)

end DecodeError

abbrev Decoder (α : Type) := Json → Except DecodeError α

namespace Json

/-- The error that another value than the expected one was found. -/
def mismatch {α : Type} (found : Json) (expected : String) : Except DecodeError α :=
  .error (.invalidType found.describe expected)

def decodeString : Decoder String
  | string value => .ok value
  | other => other.mismatch "a string"

def decodeBool : Decoder Bool
  | bool value => .ok value
  | other => other.mismatch "a boolean"

def decodeUInt16 : Decoder UInt16
  | integer value =>
    if 0 ≤ value ∧ value < 65536 then .ok (UInt16.ofNat value.toNat)
    else .error (.invalidValue (integer value).describe "u16")
  | other => other.mismatch "u16"

/-- A text that a parser accepts. -/
def decodeParsed {α : Type} (parse : String → Except FormatError α) : Decoder α := fun json => do
  Except.mapError .format (parse (← decodeString json))

def decodeAddress : Decoder Address := decodeParsed Address.parse

def decodeInterface : Decoder Interface := decodeParsed Interface.ofName

def decodeInterfaces : Decoder InterfaceSet
  | array items => return .ofList (← items.mapM decodeInterface)
  | other => other.mismatch "a sequence"

/-- The two parts of a structure: from an object by their names, or from an array by their places.
-/
def decodePair {α β : Type} (type first second : String) (decodeFirst : Decoder α)
    (decodeSecond : Decoder β) : Decoder (α × β)
  | object fields => do
    let (a?, b?) ← fields.foldlM (fun (a?, b?) (name, value) => do
      if name = first then return (some (← decodeFirst value), b?)
      else if name = second then return (a?, some (← decodeSecond value))
      else return (a?, b?)) (none, none)
    match a?, b? with
    | none, _ => throw (.missingField first)
    | _, none => throw (.missingField second)
    | some a, some b => return (a, b)
  | array [] => .error (.invalidLength 0 (type ++ " with 2 elements"))
  | array [x] => do
    let _ ← decodeFirst x
    throw (.invalidLength 1 (type ++ " with 2 elements"))
  | array (x :: y :: rest) => do
    let a ← decodeFirst x
    let b ← decodeSecond y
    if rest.isEmpty then return (a, b)
    else throw (.invalidLength (rest.length + 2) "fewer elements in array")
  | other => other.mismatch type

def decodeKey : Decoder Key := fun json => do
  let (vlan, address) ←
    decodePair "struct MacKey" "vlan_id" "eth_addr" decodeUInt16 decodeAddress json
  return { vlan, address }

def decodeEntry : Decoder Entry := fun json => do
  let (key, interfaces) ← decodePair "struct MacEntry" "key" "intfs" decodeKey decodeInterfaces json
  return { key, interfaces }

/-- The bridge of a name in lower case. -/
def bridgeOfName (name : String) : Except DecodeError Bridge :=
  match Bridge.ofName? name with
  | some bridge => .ok bridge
  | none => .error (.unknownVariant name ["inline", "threaded"])

/-- A bridge by its name, or as an object whose only field has that name and no value. -/
def decodeBridge : Decoder Bridge
  | string name => bridgeOfName name
  | object [(name, value)] => do
    let bridge ← bridgeOfName name
    match value with
    | null => return bridge
    | other => other.mismatch "unit"
  | object fields => .error (.invalidValue (object fields).describe "map with a single key")
  | other => other.mismatch "string or map"

/-- One named field of a configuration, put into its place. -/
def decodeSetting (c : Config) (name : String) (value : Json) : Except DecodeError Config :=
  match name with
  | "tracer_name" => return { c with tracerName := ← decodeString value }
  | "cursor_bridge" => return { c with bridge := ← decodeBridge value }
  | "watch_all_mac_entries" => return { c with watchAll := ← decodeBool value }
  | other => .error (.unknownField other ["tracer_name", "cursor_bridge", "watch_all_mac_entries"])

/-- Settings in the order of their declaration, as far as they are given. -/
def decodeSettings : List String → List Json → Config → Except DecodeError Config
  | name :: names, value :: values, c => do
    decodeSettings names values (← decodeSetting c name value)
  | _, _, c => .ok c

def decodeConfig : Decoder Config
  | object fields => fields.foldlM (fun c (name, value) => decodeSetting c name value) {}
  | array items => do
    let c ← decodeSettings ["tracer_name", "cursor_bridge", "watch_all_mac_entries"] items {}
    if 3 < items.length then throw (.invalidLength items.length "fewer elements in array")
    else return c
  | other => other.mismatch "struct AgentConfig"

end Json

end MacAgent
