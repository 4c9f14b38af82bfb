/-!
# Yaml/Cursor — a place in a text, and the ways to move on

Indentation carries meaning, so a cursor knows its line and its column.  Every line end is one
character; `Yaml/Document` sees to that.
-/

namespace DriveDecision.Yaml

/-! ## Kinds of characters -/

def isBlank (c : Char) : Bool := c == ' ' || c == '\t'

/-- The ends of a line. -/
def isBreak (c : Char) : Bool := c == '\n' || c == '\u2028' || c == '\u2029'

/-- What separates words. -/
def isSpace (c : Char) : Bool := isBlank c || isBreak c

/-- What anchors, handles and directives are named with. -/
def isNameChar (c : Char) : Bool := c.isAlphanum || c == '_' || c == '-'

/-- The brackets and the comma of collections written in brackets. -/
def isFlowMark (c : Char) : Bool := c == ',' || c == '[' || c == ']' || c == '{' || c == '}'

/-- Nothing, a blank or a line end comes first. -/
def endsWord : List Char → Bool
  | [] => true
  | c :: _ => isSpace c

/-! ## Places -/

/-- What is left to read, and where it is. -/
structure Cursor where
  rest : List Char
  line : Nat := 0
  column : Nat := 0
  /-- The octets before it, with a line end as one character. -/
  offset : Nat := 0

namespace Cursor

/-- Past the first character. -/
def step (c : Cursor) : Cursor :=
  match c.rest with
  | [] => c
  | first :: rest =>
    let offset := c.offset + first.utf8Size
    if isBreak first then ⟨rest, c.line + 1, 0, offset⟩ else ⟨rest, c.line, c.column + 1, offset⟩

/-- Past the characters of a run that comes first. -/
def past (run : List Char) (c : Cursor) : Cursor := run.foldl (fun c _ => c.step) c

/-- Past the characters of a kind. -/
def skip (kind : Char → Bool) (c : Cursor) : Cursor := c.past (c.rest.takeWhile kind)

/-- Past a comment, if there is one here. -/
def skipComment (c : Cursor) : Cursor :=
  if c.rest.head? == some '#' then c.skip (!isBreak ·) else c

/-- At a line of three dashes or dots, which stand between documents. -/
def atMarker (mark : Char) (c : Cursor) : Bool :=
  c.column == 0 && c.rest.take 3 == [mark, mark, mark] && endsWord (c.rest.drop 3)

/-- Where a document ends, whatever is open in it. -/
def atEdge (c : Cursor) : Bool := c.atMarker '-' || c.atMarker '.'

end Cursor

/-! ## Readers -/

/-- Readers fail without a reason: what is wrong with a text is not told. -/
abbrev Reader (β : Type) := StateT Cursor Option β

/-- The next character. -/
def peek : Reader (Option Char) := return (← get).rest.head?

/-- Past one expected character. -/
def expect (expected : Char) : Reader Unit := do
  guard ((← peek) == some expected)
  modify Cursor.step

/-- The characters of a kind that come next. -/
def readRun (kind : Char → Bool) : Reader (List Char) := do
  let run := (← get).rest.takeWhile kind
  modify (Cursor.past run)
  return run

/-- On to the next line; nothing but blanks and a comment may be left on this one. -/
def nextLine : Reader Unit := do
  modify fun c => (c.skip isBlank).skipComment
  guard ((← peek).all isBreak)
  modify Cursor.step

end DriveDecision.Yaml
