import MacAgent.Log.Pattern
import MacAgent.Text.Slice

/-! # Log filters

A filter is a list of directives between commas; empty ones do not count. A directive says how
verbose some log lines are: all of them, or those whose target begins with a given text, or those
that carry a given field. It is a verbosity alone, a target alone, or a target, a scope in brackets,
or both, with a verbosity after an equals sign. Of the directives that concern a line the most
specific one decides; a line that none concerns is not written. -/

namespace MacAgent

/-- How verbose a log is, from nothing to everything. -/
inductive Verbosity where
  | off
  | error
  | warn
  | info
  | debug
  | trace
deriving DecidableEq, Repr

namespace Verbosity

/-- All verbosities, each at the place of its number. -/
def all : List Verbosity := [off, error, warn, info, debug, trace]

def name : Verbosity → String
  | off => "off"
  | error => "error"
  | warn => "warn"
  | info => "info"
  | debug => "debug"
  | trace => "trace"

/-- The number of a verbosity; what is more verbose has a larger one. -/
def rank : Verbosity → Nat
  | off => 0
  | error => 1
  | warn => 2
  | info => 3
  | debug => 4
  | trace => 5

/-- The number written by ASCII digits, which may follow a plus sign. -/
def number? (text : List Char) : Option Nat :=
  let digits := if text.head? = some '+' then text.drop 1 else text
  if digits.isEmpty || !digits.all Char.isDigit then none
  else some (digits.foldl (fun n c => 10 * n + (c.toNat - '0'.toNat)) 0)

/-- The verbosity of a number, or of a name in any ASCII case. -/
def parse? (text : List Char) : Option Verbosity :=
  match number? text with
  | some n => all[n]?
  | none => all.find? (·.name.toList = text.map Text.asciiLower)

end Verbosity

inductive FilterError where
  | malformed
  /-- A text in a directive begins or ends inside a character. -/
  | splitCharacter
deriving DecidableEq, Repr

/-- One part of a filter. -/
structure Directive where
  /-- What the target of a line has to begin with. -/
  target : List Char := []
  /-- A field that a line has to carry. -/
  field? : Option String := none
  /-- Whether it concerns only lines inside a named scope, or with a field of a given value. -/
  inScope : Bool := false
  verbosity : Verbosity := .trace
deriving DecidableEq, Repr

namespace Directive

/-- Whether a directive can begin with this character, if it does not begin with a bracket. -/
def isStart (c : Char) : Bool :=
  c == '-' || c == ':' || c == '_' || Text.isLetter c || Text.isNumber c

/-- Whether a text is a decimal numeral with an optional sign, point and exponent, or says infinity
or not a number. -/
def isNumeral (text : List Char) : Bool :=
  let unsigned (text : List Char) :=
    if text.head?.any ['+', '-'].contains then text.drop 1 else text
  let body := unsigned text
  let whole := body.takeWhile Char.isDigit
  let rest := body.drop whole.length
  let places := if rest.head? = some '.' then (rest.drop 1).takeWhile Char.isDigit else []
  let rest := if rest.head? = some '.' then rest.drop (places.length + 1) else rest
  let power := unsigned (rest.drop 1)
  ["inf", "infinity", "nan"].contains (String.ofList (body.map Text.asciiLower)) ||
    (!(whole ++ places).isEmpty &&
      (rest.isEmpty ||
        (rest.head?.any ['e', 'E'].contains && !power.isEmpty && power.all Char.isDigit)))

/-- Reads what a directive says about a field: its name, and after an equals sign a value. What
follows a second equals sign does not count. -/
def ofField (d : Directive) (text : List Char) : Except FilterError Directive :=
  match Text.splitAtEach (· == '=') text with
  | [name] =>
    if name.isEmpty then .error .malformed else .ok { d with field? := String.ofList name }
  | name :: value :: _ =>
    if isNumeral value || Pattern.isWellFormed value then
      .ok { d with field? := String.ofList name, inScope := true }
    else .error .malformed
  | [] => .error .malformed

/-- The text between two places, which are given in bytes from the start of a directive. -/
def part (text : List Char) (start stop : Nat) : Except FilterError (List Char) :=
  match Text.slice? text start stop with
  | some part => .ok part
  | none => .error .splitCharacter

/-- Adds the verbosity that a directive says from a place on. An empty one means everything. -/
def withVerbosity (d : Directive) (text : List Char) (start : Nat) :
    Except FilterError Directive := do
  let word ← part text start (Text.byteLength text)
  if word.isEmpty then return { d with verbosity := .trace }
  else
    match Verbosity.parse? word with
    | some verbosity => return { d with verbosity }
    | none => throw .malformed

/-- Reads what follows the closing bracket. -/
def afterScope (d : Directive) (text : List Char) (place : Nat) :
    List Char → Except FilterError Directive
  | [] => .ok d
  | '=' :: _ => d.withVerbosity text (place + 1)
  | _ => .error .malformed

/-- Reads what follows the opening bracket: the name of a scope, a field between braces, or both. -/
def afterBracket (d : Directive) (text : List Char) (place : Nat) (rest : List Char) :
    Except FilterError Directive := do
  let name := rest.takeWhile fun c => c ≠ ']' && c ≠ '\x7b'
  let stop := place + Text.byteLength name
  match rest.drop name.length with
  | [] => throw .malformed
  | ']' :: rest =>
    let _ ← part text place stop
    { d with inScope := true }.afterScope text (stop + 1) rest
  | _ :: rest =>
    let scope ← part text place stop
    let field := rest.takeWhile (· ≠ '\x7d')
    let fieldStop := stop + 1 + Text.byteLength field
    match rest.drop field.length with
    | [] => throw .malformed
    | _ :: rest =>
      let d ← { d with inScope := !scope.isEmpty }.ofField (← part text (stop + 1) fieldStop)
      match rest with
      | ']' :: rest => d.afterScope text (fieldStop + 2) rest
      | _ => throw .malformed

/-- Reads a directive. Blanks around it do not count for its form; but the places of its parts count
from the first character that is no blank, and their texts are taken from the first blank on. -/
def parse (text : List Char) : Except FilterError Directive :=
  let body := Text.trim text
  let head := body.takeWhile fun c => c ≠ '=' && c ≠ '['
  let stop := Text.byteLength head
  match head, body.drop head.length with
  | [], '[' :: rest => afterBracket {} text 1 rest
  | [], _ => .error .malformed
  | c :: _, rest =>
    if !isStart c then .error .malformed
    else
      match rest with
      | [] =>
        match Verbosity.parse? text with
        | some verbosity => .ok { verbosity }
        | none => .ok { target := text }
      | '[' :: rest => do
        let target ← part text 0 stop
        afterBracket { target } text (stop + 1) rest
      | _ => do
        let target ← part text 0 stop
        withVerbosity { target } text (stop + 1)

/-- Whether the directive concerns lines of a target with some fields. -/
def concerns (d : Directive) (target : String) (fields : List String) : Bool :=
  !d.inScope && d.target.isPrefixOf target.toList && d.field?.all (fields.contains ·)

/-- Whether one directive is at most as specific as another, of two that concern the same lines: its
target is shorter, or as long and it asks for no field or for one whose name comes first. -/
def isCoarser (d e : Directive) : Bool :=
  d.target.length < e.target.length ||
    d.target.length = e.target.length && (compare d.field? e.field?).isLE

end Directive

structure Filter where
  directives : List Directive
deriving DecidableEq, Repr

namespace Filter

/-- Reads a filter, unless one of its directives cannot be read; the first of those decides. -/
def parse (text : String) : Except FilterError Filter := do
  let parts := (Text.splitAtEach (· == ',') text.toList).filter (! ·.isEmpty)
  return { directives := ← parts.mapM Directive.parse }

/-- The verbosity for lines of a target with some fields: that of the most specific directive, and
of the last one among equals. -/
def verbosity (f : Filter) (target : String) (fields : List String) : Verbosity :=
  let best := (f.directives.filter (·.concerns target fields)).foldl
    (fun best? d => if best?.all (·.isCoarser d) then some d else best?) none
  (best.map (·.verbosity)).getD .off

/-- Whether lines of a target with some fields are written at a level. -/
def shows (f : Filter) (target : String) (level : Verbosity) (fields : List String) : Bool :=
  level.rank ≤ (f.verbosity target fields).rank

end Filter

end MacAgent
