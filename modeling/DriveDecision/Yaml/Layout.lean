import DriveDecision.Yaml.BlockScalar
import DriveDecision.Yaml.Property

/-!
# Yaml/Layout — the tokens of a text, its indentation among them

What follows on a line tells whether a key began: only a colon makes one.  So the place where a key
may have begun is kept until the colon comes, or until none can come any more.  A key stands on one
line and its colon within 1024 octets.
-/

namespace DriveDecision.Yaml

/-- A place where a key may have begun. -/
structure KeyStart where
  /-- Nothing but a key can begin here. -/
  isRequired : Bool
  tokensBefore : Nat
  place : Cursor

/-- How far a text is read, and what is open there. -/
structure Layout where
  cursor : Cursor
  /-- The tokens so far, the last one first. -/
  tokens : List Token := []
  /-- The columns of the open blocks, the innermost first. -/
  blocks : List Nat := []
  /-- Where a key may have begun since the last bracket was opened. -/
  key? : Option KeyStart := none
  /-- For each open bracket, where a key may have begun before it. -/
  outerKeys : List (Option KeyStart) := []
  /-- A key may begin at the next token. -/
  isKeyPlace : Bool := true

namespace Layout

/-! ## Where it stands -/

/-- Inside brackets indentation does not matter. -/
def inFlow (s : Layout) : Bool := !s.outerKeys.isEmpty

/-- What is in the innermost block is indented by at least this. -/
def contentIndent (s : Layout) : Nat := s.blocks.head?.elim 0 (· + 1)

/-- On to the next token, past blanks, comments and line ends.  In blocks, a new line is a place
for a key; there, tabs do not lead to it. -/
def skipSpace (s : Layout) : Nat → Layout
  | 0 => s
  | fuel + 1 =>
    let c := s.cursor
    let c := if c.column == 0 && c.rest.head? == some '\ufeff' then c.step else c
    let c := c.skip fun ch => ch == ' ' || (ch == '\t' && (s.inFlow || !s.isKeyPlace))
    let c := c.skipComment
    if c.rest.head?.any isBreak then
      { s with cursor := c.step, isKeyPlace := s.isKeyPlace || !s.inFlow }.skipSpace fuel
    else { s with cursor := c }

/-! ## Keys -/

/-- No key began; it fails where one had to. -/
def dropKey (s : Layout) : Option Layout :=
  if s.key?.any (·.isRequired) then none else some { s with key? := none }

/-- No colon can come any more for a key that began in another line or too far back. -/
def dropLateKey (s : Layout) : Option Layout :=
  let isLate := s.key?.any fun start =>
    start.place.line < s.cursor.line || start.place.offset + 1024 < s.cursor.offset
  if isLate then s.dropKey else some s

/-- A key may begin here. -/
def offerKey (s : Layout) : Option Layout := do
  if !s.isKeyPlace then return s
  let dropped ← s.dropKey
  let isRequired := !s.inFlow && s.blocks.head? == some s.cursor.column
  return { dropped with key? := some ⟨isRequired, s.tokens.length, s.cursor⟩ }

/-! ## Tokens -/

def push (token : Token) (s : Layout) : Layout := { s with tokens := token :: s.tokens }

/-- A token of one character. -/
def take (token : Token) (s : Layout) : Layout := { s.push token with cursor := s.cursor.step }

/-- The token that a reader finds. -/
def read (reader : Reader Token) (s : Layout) : Option Layout := do
  let (token, cursor) ← reader.run s.cursor
  return { s.push token with cursor }

/-- A block starts at a column that is indented more than the one around it. -/
def openBlock (token : Token) (column : Nat) (s : Layout) : Layout :=
  if s.inFlow || column < s.contentIndent then s
  else { s.push token with blocks := column :: s.blocks }

/-- The blocks in columns of a kind end; they are the innermost ones. -/
def closeBlocks (kind : Nat → Bool) (s : Layout) : Layout :=
  if s.inFlow then s else
    let closed := s.blocks.takeWhile kind
    { s with
      blocks := s.blocks.drop closed.length
      tokens := closed.map (fun _ => .blockEnd) ++ s.tokens }

/-- All blocks end, as the document does. -/
def closeDocument (s : Layout) : Option Layout := do
  return { ← (s.closeBlocks fun _ => true).dropKey with isKeyPlace := false }

/-- A line between documents. -/
def marker (token : Token) (s : Layout) : Option Layout := do
  let s ← s.closeDocument
  return { s.push token with cursor := s.cursor.step.step.step }

/-- A dash before an item. -/
def dash (s : Layout) : Option Layout := do
  guard (s.inFlow || s.isKeyPlace)
  let s ← (s.openBlock .blockSequence s.cursor.column).dropKey
  return { s.take .dash with isKeyPlace := true }

/-- A question mark before a key. -/
def question (s : Layout) : Option Layout := do
  guard (s.inFlow || s.isKeyPlace)
  let s ← (s.openBlock .blockMapping s.cursor.column).dropKey
  return { s.take .key with isKeyPlace := !s.inFlow }

/-- A key did begin: it is announced, and so is the mapping that it starts. -/
def announceKey (start : KeyStart) (s : Layout) : Layout :=
  let (newer, older) := s.tokens.splitAt (s.tokens.length - start.tokensBefore)
  let before := { s with tokens := older, key? := none }
  let announced := (before.openBlock .blockMapping start.place.column).push .key
  { announced with tokens := newer ++ announced.tokens }

/-- A colon before a value; the key is what began before it, or it was announced or is missing. -/
def colon (s : Layout) : Option Layout :=
  match s.key? with
  | some start => some { (s.announceKey start).take .value with isKeyPlace := false }
  | none => do
    guard (s.inFlow || s.isKeyPlace)
    let s := s.openBlock .blockMapping s.cursor.column
    return { s.take .value with isKeyPlace := !s.inFlow }

/-- An opening bracket; what is in it can hold keys, and it can be a key as a whole. -/
def openFlow (token : Token) (s : Layout) : Option Layout := do
  let s ← s.offerKey
  return { s.take token with key? := none, outerKeys := s.key? :: s.outerKeys, isKeyPlace := true }

/-- A closing bracket. -/
def closeFlow (token : Token) (s : Layout) : Option Layout := do
  let s ← s.dropKey
  match s.outerKeys with
  | [] => none
  | key :: outerKeys => return { s.take token with key? := key, outerKeys, isKeyPlace := false }

def comma (s : Layout) : Option Layout := do
  return { (← s.dropKey).take .comma with isKeyPlace := true }

/-- What can be a key, or the start of one. -/
def node (reader : Reader Token) (s : Layout) : Option Layout := do
  return { ← (← s.offerKey).read reader with isKeyPlace := false }

/-- A plain scalar; behind it a key may begin if a line ended. -/
def plain (fuel : Nat) (s : Layout) : Option Layout := do
  let s ← s.offerKey
  let ((text, endsLine), cursor) ← (plainFrom s.inFlow s.contentIndent [] fuel).run s.cursor
  return { s.push (.scalar (String.ofList text) .plain) with cursor, isKeyPlace := endsLine }

/-- A literal or folded scalar; it ends at the end of a line. -/
def block (fuel : Nat) (s : Layout) : Option Layout := do
  guard (!s.inFlow)
  let s ← s.dropKey
  let ((text, style), cursor) ← (blockScalar s.contentIndent fuel).run s.cursor
  return { s.push (.scalar text style) with cursor, isKeyPlace := true }

/-- The next token, with those that indentation puts before it. -/
def next (s : Layout) (fuel : Nat) : Option Layout :=
  let c := s.cursor
  let quoted (reader : Reader String) : Reader Token := do
    modify Cursor.step
    return .scalar (← reader) .quoted
  match c.rest with
  | [] => none
  | first :: rest =>
    if c.atMarker '-' then s.marker .documentStart
    else if c.atMarker '.' then s.marker .documentEnd
    else match first with
      | '%' => if c.column = 0 then s.closeDocument.bind (·.read (directive fuel)) else none
      | '[' => s.openFlow .openSequence
      | '{' => s.openFlow .openMapping
      | ']' => s.closeFlow .closeSequence
      | '}' => s.closeFlow .closeMapping
      | ',' => s.comma
      | '-' => if endsWord rest then s.dash else s.plain fuel
      | '?' => if s.inFlow || endsWord rest then s.question else s.plain fuel
      | ':' => if s.inFlow || endsWord rest then s.colon else s.plain fuel
      | '*' => s.node (.reference <$> name)
      | '&' => s.node (.anchor <$> name)
      | '!' => s.node (tag s.inFlow fuel)
      | '|' | '>' => s.block fuel
      | '\'' => s.node (quoted (singleQuoted [] fuel))
      | '"' => s.node (quoted (doubleQuoted [] fuel))
      | _ => if isSpace first || isIndicator first then none else s.plain fuel

/-- The tokens of a text from here on. -/
def tokens? (s : Layout) : Nat → Option (List Token)
  | 0 => none
  | fuel + 1 => do
    let s ← (s.skipSpace (fuel + 1)).dropLateKey
    if s.cursor.rest.isEmpty then return (← s.closeDocument).tokens.reverse
    (← (s.closeBlocks (s.cursor.column < ·)).next fuel).tokens? fuel

end Layout

end DriveDecision.Yaml
