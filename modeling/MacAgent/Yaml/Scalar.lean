import MacAgent.Value.Address

/-! # Scalars of a YAML document

A scalar is written plainly, or between single or double quotes. A scalar may continue on further
lines; a line break between two of its lines counts as a space, and each further one as a line feed.
The scanners read characters one at a time and know the column they are in. -/

namespace MacAgent.Yaml

/-- A line break. Carriage returns and next-line characters have been replaced by line feeds. -/
def isBreak (c : Char) : Bool := c == '\n' || c == '\u2028' || c == '\u2029'

def isSpace (c : Char) : Bool := c == ' ' || c == '\t'

/-- Whether a text is empty or starts with a space, a tab or a line break. -/
def startsBlank : List Char → Bool
  | [] => true
  | c :: _ => isSpace c || isBreak c

/-- Whether a text starts with three times the character `mark`, and nothing joins on. -/
def startsMarker (mark : Char) : List Char → Bool
  | a :: b :: c :: rest => a == mark && b == mark && c == mark && startsBlank rest
  | _ => false

/-- Whether a document marker stands at the start of a line. -/
def atMarker (column : Nat) (text : List Char) : Bool :=
  column == 0 && (startsMarker '-' text || startsMarker '.' text)

/-- What separates two parts of a scalar. Characters are kept in reverse. -/
inductive Gap where
  | none
  | spaces (reversed : List Char)
  /-- A line break, and those after it. -/
  | lines (first : Char) (reversed : List Char)
  /-- An escaped line break, and the breaks after it. -/
  | escaped (reversed : List Char)

namespace Gap

def addSpace (c : Char) : Gap → Gap
  | none => spaces [c]
  | spaces reversed => spaces (c :: reversed)
  | gap => gap

def addBreak (c : Char) : Gap → Gap
  | none | spaces _ => lines c []
  | lines first reversed => lines first (c :: reversed)
  | escaped reversed => escaped (c :: reversed)

/-- Whether the gap goes on to another line. -/
def breaks : Gap → Bool
  | lines .. | escaped _ => true
  | _ => false

def isNone : Gap → Bool
  | none => true
  | _ => false

/-- Adds what the gap stands for to the reversed text before it. -/
def join (reversedText : List Char) : Gap → List Char
  | none => reversedText
  | spaces reversed => reversed ++ reversedText
  | lines '\n' [] => ' ' :: reversedText
  | lines '\n' reversed => reversed ++ reversedText
  | lines first reversed => reversed ++ first :: reversedText
  | escaped reversed => reversed ++ reversedText

end Gap

structure Scanned where
  text : String
  plain : Bool
  multiline : Bool
  rest : List Char
  column : Nat
  /-- Whether the place after the scalar is on a later line. -/
  broke : Bool

/-- The empty plain scalar that stands for a value that is not there. -/
def Scanned.nothing (rest : List Char) (column : Nat) (broke : Bool) : Scanned :=
  { text := "", plain := true, multiline := false, rest, column, broke }

/-- Whether a character opens something other than a plain scalar. -/
def isIndicator (c : Char) : Bool :=
  c ∈ ['-', '?', ':', ',', '[', ']', '\x7b', '\x7d', '#', '&', '*', '!', '|', '>', '\'', '"', '%',
    '@', '\x60']

/-- Whether a plain scalar can start here. -/
def startsPlain (flow : Bool) : List Char → Bool
  | [] => false
  | c :: rest =>
    if isSpace c || isBreak c then false
    else if isIndicator c then
      (c == '-' || (!flow && (c == '?' || c == ':'))) && !startsBlank rest
    else true

def isFlowIndicator (c : Char) : Bool := c ∈ [',', '[', ']', '\x7b', '\x7d']

/-- Reads a plain scalar. It ends at a colon before a blank, at a comment after a gap, at a document
marker, inside braces at a bracket, brace or comma, and otherwise at a line that is indented by less
than `indent`. -/
def plainFrom (flow : Bool) (indent : Nat) (reversed : List Char) (gap : Gap) (multiline : Bool)
    (column : Nat) : List Char → Option Scanned
  | [] => some (finish [])
  | c :: rest =>
    if isBreak c then plainFrom flow indent reversed (gap.addBreak c) multiline 0 rest
    else if isSpace c then
      if gap.breaks && c == '\t' && column < indent then none
      else plainFrom flow indent reversed (gap.addSpace c) multiline (column + 1) rest
    else if !gap.isNone && (atMarker column (c :: rest) || c == '#') then some (finish (c :: rest))
    else if gap.breaks && !flow && column < indent then some (finish (c :: rest))
    else if flow && c == ':' && (rest.head?.any fun d => d == '?' || isFlowIndicator d) then none
    else if (c == ':' && startsBlank rest) || (flow && isFlowIndicator c) then
      some (finish (c :: rest))
    else
      let reversed := c :: gap.join reversed
      plainFrom flow indent reversed .none (multiline || gap.breaks) (column + 1) rest
where
  /-- The scalar read so far, before `rest`. -/
  finish (rest : List Char) : Scanned :=
    { text := String.ofList reversed.reverse, plain := true, multiline, rest, column,
      broke := gap.breaks }

/-- What an escape of one character stands for. -/
def escaped? (c : Char) : Option Char :=
  [('0', '\x00'), ('a', '\x07'), ('b', '\x08'), ('t', '\t'), ('\t', '\t'), ('n', '\n'),
    ('v', '\x0b'), ('f', '\x0c'), ('r', '\r'), ('e', '\x1b'), (' ', ' '), ('"', '"'), ('/', '/'),
    ('\\', '\\'), ('N', '\u0085'), ('_', '\u00a0'), ('L', '\u2028'), ('P', '\u2029')].lookup c

/-- How many hexadecimal digits follow an escape. -/
def escapeWidth? (c : Char) : Option Nat :=
  [('x', 2), ('u', 4), ('U', 8)].lookup c

/-- Where a quoted scalar stands. -/
inductive QuoteState where
  | text
  /-- After a quote that may be one of a pair. -/
  | closing
  | escape
  /-- Within an escape that still needs `left` digits. -/
  | digits (left value : Nat)

/-- Reads a quoted scalar from after its opening quote. -/
def quotedFrom (quote : Char) (reversed : List Char) (gap : Gap) (multiline : Bool)
    (state : QuoteState) (column : Nat) : List Char → Option Scanned
  | [] =>
    match state with
    | .closing => some (finish [])
    | _ => none
  | c :: rest =>
    let text (reversed : List Char) (gap : Gap) (column : Nat) : Option Scanned :=
      quotedFrom quote reversed gap (multiline || gap.breaks) .text column rest
    match state with
    | .closing =>
      if c == '\'' && quote == '\'' then text ('\'' :: reversed) .none (column + 1)
      else some (finish (c :: rest))
    | .escape =>
      if isBreak c then text reversed (.escaped []) 0
      else
        match escaped? c, escapeWidth? c with
        | some d, _ => text (d :: reversed) .none (column + 1)
        | none, some width =>
          quotedFrom quote reversed .none multiline (.digits width 0) (column + 1) rest
        | none, none => none
    | .digits left value =>
      match Address.hexValue? c with
      | none => none
      | some d =>
        let value := 16 * value + d
        if 1 < left then
          quotedFrom quote reversed .none multiline (.digits (left - 1) value) (column + 1) rest
        else if value.isValidChar then text (Char.ofNat value :: reversed) .none (column + 1)
        else none
    | .text =>
      if atMarker column (c :: rest) then none
      else if isBreak c then text reversed (gap.addBreak c) 0
      else if isSpace c then text reversed (gap.addSpace c) (column + 1)
      else
        let reversed := gap.join reversed
        if c == quote then
          quotedFrom quote reversed .none multiline .closing (column + 1) rest
        else if c == '\\' && quote == '"' then
          quotedFrom quote reversed .none multiline .escape (column + 1) rest
        else text (c :: reversed) .none (column + 1)
where
  /-- The scalar read so far, before `rest`. -/
  finish (rest : List Char) : Scanned :=
    { text := String.ofList reversed.reverse, plain := false, multiline, rest, column,
      broke := false }

/-- Reads the scalar that starts here, if one does. -/
def scalar? (flow : Bool) (indent column : Nat) (text : List Char) : Option Scanned :=
  match text with
  | '"' :: rest => quotedFrom '"' [] .none false .text (column + 1) rest
  | '\'' :: rest => quotedFrom '\'' [] .none false .text (column + 1) rest
  | text => if startsPlain flow text then plainFrom flow indent [] .none false column text else none

end MacAgent.Yaml
