import MacAgent.Yaml.Scalar

/-! # Flat YAML documents

A document is empty, or a mapping from scalars to scalars: in block form, one field per line and all
of them in the same column, or in flow form between braces. Comments and blank lines may stand
between the lines, a marker of three hyphens before the document and one of three dots after it. A
byte order mark may begin a line; it takes up a column. Every other text is no document of this
kind. -/

namespace MacAgent.Yaml

/-- The content of a flat document. -/
inductive Document where
  | empty
  | mapping (fields : List (Scanned × Scanned))

/-- A place in a text. -/
structure Place where
  rest : List Char
  column : Nat
  /-- Whether a line break was passed on the way here. -/
  broke : Bool

/-- The place after spaces, comments and line breaks. Tabs count as spaces inside braces, and in
block form only within a line that has begun. -/
def skip (flow tabs comment : Bool) (column : Nat) (broke : Bool) : List Char → Place
  | [] => { rest := [], column, broke }
  | c :: rest =>
    if isBreak c then skip flow flow false 0 true rest
    else if comment || c == ' ' || (c == '\t' && tabs) then
      skip flow tabs comment (column + 1) broke rest
    else if c == '#' then skip flow tabs true (column + 1) broke rest
    else if c == '\ufeff' && column == 0 then skip flow tabs comment 1 broke rest
    else { rest := c :: rest, column, broke }

/-- The place after a scalar, or after a mark within a line. -/
def skipOn (flow : Bool) (column : Nat) (broke : Bool) (text : List Char) : Place :=
  skip flow (flow || !broke) false column broke text

/-- Whether nothing but end markers follows. There are at most `bound` of them. -/
def endsHere (bound : Nat) (p : Place) : Bool :=
  match bound, p.rest with
  | _, [] => true
  | bound + 1, text@(_ :: _ :: _ :: rest) =>
    p.column == 0 && startsMarker '.' text && endsHere bound (skipOn false 3 false rest)
  | _, _ => false

/-- The most characters from the start of a key to its colon. -/
def keyReach : Nat := 1024

/-- The key of a field, and the place after its colon. Key and colon stand on one line, and not too
far from each other. -/
def key? (flow : Bool) (indent : Nat) (p : Place) : Option (Scanned × List Char × Nat) := do
  let key ← scalar? flow indent p.column p.rest
  let after := skipOn flow key.column key.broke key.rest
  match after.rest with
  | ':' :: rest =>
    if key.multiline || after.broke || p.column + keyReach < after.column ||
        !(flow || startsBlank rest) then none
    else some (key, rest, after.column + 1)
  | _ => none

/-- What stands after a mark of a block field in column `indent`: on the line of the mark, or on a
later line further to the right. Nothing but a comment follows it on its line. Tabs count as spaces
after the colon of a key on the same line. -/
def blockValue? (indent : Nat) (tabs : Bool) (rest : List Char) (column : Nat) :
    Option (Scanned × Place) :=
  let p := skip false tabs false column false rest
  if p.rest.isEmpty || (p.broke && p.column ≤ indent) then
    some (.nothing p.rest p.column true, p)
  else do
    let value ← scalar? false (indent + 1) p.column p.rest
    let after := skipOn false value.column value.broke value.rest
    if after.rest.isEmpty || (after.broke && after.column ≤ indent) then some (value, after)
    else none

/-- A field of a block mapping in column `indent`. A question mark may stand before the key, and
then its colon, if there is one, begins a line in the same column. -/
def blockField? (indent : Nat) (p : Place) : Option ((Scanned × Scanned) × Place) := do
  if p.rest.head? = some '?' && startsBlank (p.rest.drop 1) then
    let (key, p) ← blockValue? indent false (p.rest.drop 1) (p.column + 1)
    if p.column = indent && p.rest.head? = some ':' && startsBlank (p.rest.drop 1) then
      let (value, p) ← blockValue? indent false (p.rest.drop 1) (p.column + 1)
      return ((key, value), p)
    else return ((key, .nothing p.rest p.column true), p)
  else
    let (key, rest, column) ← key? false indent p
    let (value, p) ← blockValue? indent true rest column
    return ((key, value), p)

/-- The fields of a block mapping in column `indent`, of which there are at most `bound`. -/
def blockFields? (indent : Nat) : Nat → Place → Option (List (Scanned × Scanned) × Place)
  | 0, _ => none
  | bound + 1, p =>
    if p.rest.isEmpty || p.column < indent || atMarker p.column p.rest then some ([], p)
    else do
      let (field, p) ← blockField? indent p
      let (fields, p) ← blockFields? indent bound p
      return (field :: fields, p)

def flowPlace (column : Nat) (text : List Char) : Place := skip true true false column false text

/-- What stands at a place inside braces: a scalar, or nothing before one of the marks. -/
def flowValue? (marks : List Char) (p : Place) : Option (Scanned × Place) :=
  if p.rest.head?.any marks.contains then some (.nothing p.rest p.column false, p)
  else if atMarker p.column p.rest then none
  else do
    let value ← scalar? true 0 p.column p.rest
    return (value, flowPlace value.column value.rest)

/-- A field of a flow mapping: a key with a value, or either of them alone. After a question mark
the key need not stand on the line of its colon. -/
def flowField? (p : Place) : Option ((Scanned × Scanned) × Place) := do
  if atMarker p.column p.rest then none
  else if p.rest.head? = some '?' then
    let (key, p) ← flowValue? [':', ',', '\x7d'] (flowPlace (p.column + 1) (p.rest.drop 1))
    let (value, p) ←
      if p.rest.head? = some ':' then
        flowValue? [',', '\x7d'] (flowPlace (p.column + 1) (p.rest.drop 1))
      else some (.nothing p.rest p.column false, p)
    return ((key, value), p)
  else
    match key? true 0 p with
    | some (key, rest, column) =>
      let (value, p) ← flowValue? [',', '\x7d'] (flowPlace column rest)
      return ((key, value), p)
    | none =>
      let key ← scalar? true 0 p.column p.rest
      let p := flowPlace key.column key.rest
      return ((key, .nothing p.rest p.column false), p)

/-- The fields of a flow mapping from after its opening brace, or after a comma. There are at most
`bound` of them. -/
def flowFields? : Nat → Place → Option (List (Scanned × Scanned) × Place)
  | 0, _ => none
  | bound + 1, p =>
    match p.rest with
    | '\x7d' :: rest => some ([], skipOn false (p.column + 1) false rest)
    | _ => do
      let (field, p) ← flowField? p
      match p.rest with
      | ',' :: rest =>
        let (fields, p) ← flowFields? bound (flowPlace (p.column + 1) rest)
        return (field :: fields, p)
      | '\x7d' :: rest => return ([field], skipOn false (p.column + 1) false rest)
      | _ => none

/-- The document that starts here. A block mapping has to start on a line of its own. -/
def content? (bound : Nat) (ownLine : Bool) (p : Place) : Option Document :=
  match p.rest with
  | [] => some .empty
  | '\x7b' :: rest => do
    let (fields, p) ← flowFields? bound (flowPlace (p.column + 1) rest)
    if (p.broke || p.rest.isEmpty) && endsHere bound p then some (.mapping fields) else none
  | text =>
    if atMarker p.column text then if endsHere bound p then some .empty else none
    else if ownLine then do
      let (fields, p) ← blockFields? p.column bound p
      if endsHere bound p then some (.mapping fields) else none
    else none

/-- Whether a character may occur in a document. -/
def isAllowed (c : Char) : Bool :=
  c == '\t' || c == '\n' || c == '\r' || c == '\u0085' || (' ' ≤ c && c ≤ '~') ||
    ('\u00a0' ≤ c && c ≤ '\ufffd') || 0x10000 ≤ c.toNat

/-- Line breaks as line feeds, except for the two separators that have a meaning of their own. -/
def normalize : List Char → List Char
  | [] => []
  | '\r' :: '\n' :: rest => '\n' :: normalize rest
  | '\r' :: rest => '\n' :: normalize rest
  | '\u0085' :: rest => '\n' :: normalize rest
  | c :: rest => c :: normalize rest

def Document.parse? (text : String) : Option Document :=
  let chars := normalize text.toList
  if !chars.all isAllowed then none
  else
    let bound := chars.length + 1
    let p := skip false false false 0 false chars
    match p.column, p.rest with
    | 0, '.' :: _ => if atMarker 0 p.rest then none else content? bound true p
    | 0, '-' :: '-' :: '-' :: rest =>
      if startsBlank rest then
        let p := skipOn false 3 false rest
        content? bound p.broke p
      else content? bound true p
    | _, _ => content? bound true p

end MacAgent.Yaml
