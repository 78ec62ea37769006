import MacAgent.Text.Blank
import MacAgent.Text.Letter
import MacAgent.Value.Address

/-! # Patterns

The value that a log directive asks of a field may be a regular expression. No log line has a field
with a value, so nothing is ever matched; what counts is whether a text is a pattern at all. It is
read from left to right, with the groups and classes that are still open.

There are no tables of character properties. Hence a pattern has no class of digits, blanks or word
characters, no word boundary and no letters in both cases, unless it turns to octets first; and over
octets it has nothing that could match a part of a character. A brace opens a count of repetitions,
and in a directive nothing closes it, since the closing brace already ends the field. -/

namespace MacAgent.Pattern

/-- How a part of a pattern is read. -/
structure Mode where
  /-- Blanks do not count, and a number sign begins a comment. -/
  spaced : Bool := false
  /-- The pattern is about characters, not about single octets. -/
  wide : Bool := true
  /-- Letters stand for their other case as well. -/
  anyCase : Bool := false
deriving DecidableEq, Repr

/-- The mode after some flags; those behind a hyphen are turned off. -/
def Mode.apply (m : Mode) (flags : List Char) : Mode :=
  let value (flag : Char) (now : Bool) :=
    (flags.takeWhile (· ≠ '-')).contains flag || (now && !flags.contains flag)
  { spaced := value 'x' m.spaced, wide := value 'u' m.wide, anyCase := value 'i' m.anyCase }

/-- The text after the blanks and comments at its start, or after the rest of a comment. -/
def skipSpace (comment : Bool) : List Char → List Char
  | [] => []
  | c :: rest =>
    if comment then skipSpace (c ≠ '\n') rest
    else if Text.isBlank c then skipSpace false rest
    else if c = '#' then skipSpace true rest
    else c :: rest

/-- The text from the next character that counts. -/
def Mode.skip (m : Mode) (text : List Char) : List Char :=
  if m.spaced then skipSpace false text else text

/-! ### Atoms -/

/-- The smallest parts of a pattern. -/
inductive Atom where
  /-- A character, and whether it is written as the number of an octet. -/
  | char (c : Char) (octet : Bool)
  | any
  /-- The digits, the blanks or the word characters, or all other characters. -/
  | named (negated : Bool)
  /-- A place between characters, and whether it is an edge of a word. -/
  | place (ofWord : Bool)
deriving DecidableEq, Repr

namespace Atom

def isPart (m : Mode) : Atom → Bool
  | char c octet => if m.wide then !m.anyCase else !octet || c.toNat < 0x80
  | any => m.wide
  | named negated => !m.wide && !negated
  | place ofWord => !m.wide || !ofWord

def isMember (m : Mode) : Atom → Bool
  | char c _ => if m.wide then !m.anyCase else c.toNat < 0x80
  | named negated => !m.wide && !negated
  | any | place _ => false

end Atom

/-- The number of `count` hexadecimal digits after those of `value`. -/
def hexNumber? (m : Mode) : (count value : Nat) → List Char → Option (Nat × List Char)
  | 0, value, text => some (value, text)
  | count + 1, value, text =>
    match m.skip text with
    | c :: rest => do hexNumber? m count (16 * value + (← Address.hexValue? c)) rest
    | [] => none

/-- The character whose code point is written with `count` hexadecimal digits. -/
def hexChar? (m : Mode) (count : Nat) (text : List Char) : Option (Char × List Char) := do
  let (code, rest) ← hexNumber? m count 0 text
  if code.isValidChar then return (Char.ofNat code, rest) else none

/-- The control characters that a letter stands for after a backslash. -/
def controls : List (Char × Char) :=
  [('a', '\x07'), ('f', '\x0c'), ('n', '\n'), ('r', '\r'), ('t', '\t'), ('v', '\x0b')]

/-- Reads what follows a backslash. ASCII characters that are no letters or digits stand for
themselves. -/
def escape? (m : Mode) : List Char → Option (Atom × List Char)
  | [] => none
  | 'x' :: rest => (hexChar? m 2 rest).map fun (c, rest) => (.char c true, rest)
  | 'u' :: rest => (hexChar? m 4 rest).map fun (c, rest) => (.char c false, rest)
  | 'U' :: rest => (hexChar? m 8 rest).map fun (c, rest) => (.char c false, rest)
  | c :: rest =>
    if ['d', 's', 'w'].contains c then some (.named false, rest)
    else if ['D', 'S', 'W'].contains c then some (.named true, rest)
    else if ['A', 'z'].contains c then some (.place false, rest)
    else if ['b', 'B', '<', '>'].contains c then some (.place true, rest)
    else
      match controls.lookup c with
      | some control => some (.char control false, rest)
      | none => if c.toNat < 0x80 && !c.isAlphanum then some (.char c false, rest) else none

def part? (m : Mode) : List Char → Option (Atom × List Char)
  | [] => none
  | '\\' :: rest => escape? m rest
  | '.' :: rest => some (.any, rest)
  | '^' :: rest | '$' :: rest => some (.place false, rest)
  | c :: rest => some (.char c false, rest)

def member? (m : Mode) : List Char → Option (Atom × List Char)
  | [] => none
  | '\\' :: rest => escape? m rest
  | c :: rest => some (.char c false, rest)

/-! ### Depth -/

/-- How deeply the parts of a pattern may be nested. -/
def maxDepth : Nat := 250

/-- The depth of several parts together; a single part adds nothing to its own. -/
def depthOf : List Nat → Nat
  | [] => 0
  | [depth] => depth
  | depths => depths.foldl max 0 + 1

/-- The depth of alternatives: the last one, and those before it if there are any. -/
def depthAfter (before? : Option Nat) (last : Nat) : Nat :=
  match before? with
  | none => last
  | some before => max before last + 1

/-! ### Classes -/

/-- A class between brackets that is not yet closed. -/
structure Class where
  negated : Bool
  /-- Only hyphens have been read, which are members there. -/
  fresh : Bool := true
  /-- The depth of what stands before the last operator. -/
  before? : Option Nat := none
  /-- The depths of the members after it. -/
  members : List Nat := []

namespace Class

/-- Reads the beginning of a class after its bracket. -/
def opening (m : Mode) (text : List Char) : Class × List Char :=
  match m.skip text with
  | '^' :: rest => ({ negated := true }, rest)
  | rest => ({ negated := false }, rest)

def add (c : Class) (depth : Nat) : Class :=
  { c with fresh := false, members := depth :: c.members }

def depth (c : Class) : Nat := depthAfter c.before? (depthOf c.members)

/-- The class after an operator. -/
def operate (c : Class) : Class :=
  { c with fresh := false, before? := some c.depth, members := [] }

/-- The names of classes of ASCII characters. -/
def names : List String :=
  ["alnum", "alpha", "ascii", "blank", "cntrl", "digit", "graph", "lower", "print", "punct",
    "space", "upper", "word", "xdigit"]

/-- Reads a class of ASCII characters by its name, after the bracket; says whether it is negated. -/
def ascii? : List Char → Option (Bool × List Char)
  | ':' :: text =>
    let negated := text.head? = some '^'
    let text := if negated then text.drop 1 else text
    let name := text.takeWhile (· ≠ ':')
    match text.drop name.length with
    | ':' :: ']' :: rest =>
      if names.contains (String.ofList name) then some (negated, rest) else none
    | _ => none
  | _ => none

/-- Whether a class may be negated, or a class by name be a member. -/
def isAllowed (m : Mode) (negated byName : Bool) : Bool :=
  if m.wide then !(byName && m.anyCase) else !negated

/-- Reads a member, or a range between two characters of which the second is not before the first.
-/
def range? (m : Mode) (text : List Char) : Option (List Char) := do
  let (first, rest) ← member? m text
  let alone := if first.isMember m then some rest else none
  match m.skip rest with
  | '-' :: after =>
    match m.skip after with
    | ']' :: _ | '-' :: _ => alone
    | after =>
      let (last, rest) ← member? m after
      match first, last with
      | .char low _, .char high _ =>
        if low ≤ high && first.isMember m && last.isMember m then some rest else none
      | _, _ => none
  | _ => alone

/-- Reads on to the end of the outermost class, in at most `bound` steps; gives its depth and what
follows. -/
def finish? (m : Mode) :
    (bound : Nat) → List Class → Class → List Char → Option (Nat × List Char)
  | 0, _, _, _ => none
  | bound + 1, outer, c, text =>
    match m.skip text with
    | [] => none
    | '[' :: rest =>
      match ascii? rest with
      | some (negated, rest) =>
        if isAllowed m negated true then finish? m bound outer (c.add 0) rest else none
      | none =>
        let (inner, rest) := opening m rest
        finish? m bound (c :: outer) inner rest
    | ']' :: rest =>
      if c.fresh && c.members.isEmpty then
        if Atom.isMember m (.char ']' false) then finish? m bound outer (c.add 0) rest else none
      else if !isAllowed m c.negated false then none
      else
        match outer with
        | [] => some (c.depth + 1, rest)
        | around :: outer => finish? m bound outer (around.add (c.depth + 1)) rest
    | first :: rest =>
      if c.fresh && first = '-' then
        if Atom.isMember m (.char '-' false) then
          finish? m bound outer { c with members := 0 :: c.members } rest
        else none
      else if ['&', '-', '~'].contains first && rest.head? = some first then
        finish? m bound outer c.operate (rest.drop 1)
      else do finish? m bound outer (c.add 0) (← range? m (first :: rest))

end Class

/-! ### Groups -/

/-- A group that is not yet closed, or the whole pattern. -/
structure Group where
  mode : Mode := {}
  /-- The depth of the alternatives before the last one. -/
  before? : Option Nat := none
  /-- The depths of the parts of the last one, newest first; flags have none. -/
  parts : List (Option Nat) := []

namespace Group

/-- The depth of the last alternative. -/
def lastDepth (g : Group) : Nat := depthOf (g.parts.map (·.getD 0))

def depth (g : Group) : Nat := depthAfter g.before? g.lastDepth

def add (g : Group) (depth : Nat) : Group := { g with parts := some depth :: g.parts }

/-- The group with one more alternative, as yet empty. -/
def alternative (g : Group) : Group :=
  { g with before? := some (max (g.before?.getD 0) g.lastDepth), parts := [] }

def repeated? (g : Group) : Option Group :=
  match g.parts with
  | some depth :: parts => some { g with parts := some (depth + 1) :: parts }
  | _ => none

end Group

/-- What a parenthesis begins. -/
inductive Opening where
  | group (mode : Mode) (name? : Option (List Char))
  /-- A new mode for the rest of the group around it. -/
  | flags (mode : Mode)

namespace Opening

/-- Whether a character may stand in the name of a group, after the first one. -/
def isNamePart (c : Char) : Bool :=
  ['_', '.', '[', ']'].contains c || Text.isLetter c || Text.isNumber c

/-- Reads the name of a group up to its angle bracket. -/
def named? (m : Mode) (text : List Char) : Option (Opening × List Char) :=
  let name := text.takeWhile (· ≠ '>')
  match name, text.drop name.length with
  | first :: others, _ :: rest =>
    if (first = '_' || Text.isLetter first) && others.all isNamePart then
      some (group m (some name), rest)
    else none
  | _, _ => none

/-- Reads flags, and whether they are for a group or for what follows. No flag may occur twice. -/
def flags? (m : Mode) (text : List Char) : Option (Opening × List Char) :=
  let names := text.takeWhile fun c => c ≠ ':' && c ≠ ')'
  if !names.all ['i', 'm', 's', 'U', 'u', 'R', 'x', '-'].contains || !decide names.Nodup ||
      names.getLast? = some '-' then none
  else
    match text.drop names.length with
    | [] => none
    | ':' :: rest => some (group (m.apply names) none, rest)
    | _ :: rest => if names.isEmpty then none else some (flags (m.apply names), rest)

def ofText? (m : Mode) (text : List Char) : Option (Opening × List Char) :=
  match m.skip text with
  | '?' :: 'P' :: '<' :: rest | '?' :: '<' :: rest => named? m rest
  | '?' :: rest => flags? m rest
  | rest => some (group m none, rest)

end Opening

/-- Whether a pattern ends well, read on in at most `bound` steps. No two groups have one name. -/
def endsWell : (bound : Nat) → List (List Char) → List Group → Group → List Char → Bool
  | 0, _, _, _, _ => false
  | bound + 1, names, outer, g, text =>
    match g.mode.skip text with
    | [] => outer.isEmpty && g.depth ≤ maxDepth
    | '(' :: rest =>
      match Opening.ofText? g.mode rest with
      | none => false
      | some (.flags mode, rest) =>
        endsWell bound names outer { g with mode, parts := none :: g.parts } rest
      | some (.group mode none, rest) => endsWell bound names (g :: outer) { mode } rest
      | some (.group mode (some name), rest) =>
        !names.contains name && endsWell bound (name :: names) (g :: outer) { mode } rest
    | ')' :: rest =>
      match outer with
      | [] => false
      | around :: outer => endsWell bound names outer (around.add (g.depth + 1)) rest
    | '|' :: rest => endsWell bound names outer g.alternative rest
    | '[' :: rest =>
      let (c, rest) := Class.opening g.mode rest
      match Class.finish? g.mode (rest.length + 1) [] c rest with
      | none => false
      | some (depth, rest) => endsWell bound names outer (g.add depth) rest
    | '\x7b' :: _ => false
    | c :: rest =>
      if ['?', '*', '+'].contains c then
        match g.repeated? with
        | none => false
        | some g =>
          endsWell bound names outer g (if rest.head? = some '?' then rest.drop 1 else rest)
      else
        match part? g.mode (c :: rest) with
        | none => false
        | some (atom, rest) => atom.isPart g.mode && endsWell bound names outer (g.add 0) rest

/-- Whether a text without closing braces is a pattern. -/
def isWellFormed (text : List Char) : Bool :=
  endsWell (text.length + 1) [] [] {} text

end MacAgent.Pattern
