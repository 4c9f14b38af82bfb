import DriveDecision.Yaml.Cursor
import DriveDecision.Yaml.Node

/-!
# Yaml/Scalar — quoted and plain scalars

Both may go on in the next line.  A single line end between two words reads as a space, of several
the first is left out; blanks at the ends of lines do not count.
-/

namespace DriveDecision.Yaml

/-- What a run of line ends reads as.  The rare separators of lines and paragraphs stay. -/
def foldBreaks : List Char → List Char
  | ['\n'] => [' ']
  | '\n' :: more => more
  | breaks => breaks

/-- What stands between two words, as it reads. -/
def foldGap (gap : List Char) : List Char :=
  let breaks := gap.filter isBreak
  if breaks.isEmpty then gap else foldBreaks breaks

/-! ## Quoted -/

/-- The rest of a single-quoted scalar; `done` is what came before, backward. -/
def singleQuoted (done : List Char) : Nat → Reader String
  | 0 => failure
  | fuel + 1 => do
    let c ← get
    guard (!c.atEdge)
    match c.rest with
    | [] => failure
    | '\'' :: '\'' :: _ =>
      set c.step.step
      singleQuoted ('\'' :: done) fuel
    | '\'' :: _ =>
      set c.step
      return String.ofList done.reverse
    | ch :: _ =>
      if isSpace ch then
        let gap ← readRun isSpace
        singleQuoted ((foldGap gap).reverse ++ done) fuel
      else
        set c.step
        singleQuoted (ch :: done) fuel

/-- The character an escape letter stands for. -/
def escaped? (letter : Char) : Option Char :=
  [('0', '\x00'), ('a', '\x07'), ('b', '\x08'), ('t', '\t'), ('\t', '\t'), ('n', '\n'),
    ('v', '\x0b'), ('f', '\x0c'), ('r', '\r'), ('e', '\x1b'), (' ', ' '), ('"', '"'),
    ('/', '/'), ('\\', '\\'), ('N', '\u0085'), ('_', '\u00a0'), ('L', '\u2028'),
    ('P', '\u2029')].lookup letter

/-- How many hexadecimal digits follow an escape letter. -/
def escapeWidth? (letter : Char) : Option Nat := [('x', 2), ('u', 4), ('U', 8)].lookup letter

/-- The character with the code given by the next `width` digits. -/
def codePoint (width : Nat) : Reader Char := do
  let c ← get
  let run := c.rest.take width
  guard (run.length == width)
  let some code := digits? 16 run | failure
  guard code.isValidChar
  set (c.past run)
  return Char.ofNat code

/-- The rest of a double-quoted scalar; `done` is what came before, backward.  Behind a backslash a
line end is left out. -/
def doubleQuoted (done : List Char) : Nat → Reader String
  | 0 => failure
  | fuel + 1 => do
    let c ← get
    guard (!c.atEdge)
    match c.rest with
    | [] => failure
    | '"' :: _ =>
      set c.step
      return String.ofList done.reverse
    | '\\' :: letter :: _ =>
      set c.step.step
      if isBreak letter then
        let gap ← readRun isSpace
        doubleQuoted ((gap.filter isBreak).reverse ++ done) fuel
      else match escaped? letter, escapeWidth? letter with
        | some ch, _ => doubleQuoted (ch :: done) fuel
        | none, some width =>
          let ch ← codePoint width
          doubleQuoted (ch :: done) fuel
        | none, none => failure
    | ch :: _ =>
      if isSpace ch then
        let gap ← readRun isSpace
        doubleQuoted ((foldGap gap).reverse ++ done) fuel
      else
        set c.step
        doubleQuoted (ch :: done) fuel

/-! ## Plain -/

/-- Characters no plain scalar starts with. -/
def isIndicator (c : Char) : Bool := ",[]\x7b\x7d#&*!|>'\"%@\x60".toList.contains c

/-- The part of a plain scalar up to a blank.  A colon ends it before a blank, and in brackets it
cannot stand before one of them; there, they end it as well. -/
def plainWord (inFlow : Bool) : List Char → Option (List Char)
  | [] => some []
  | c :: rest =>
    if isSpace c then some []
    else if inFlow && c == ':' && rest.head?.any (fun d => isFlowMark d || d == '?') then none
    else if (c == ':' && endsWord rest) || (inFlow && isFlowMark c) then some []
    else (plainWord inFlow rest).map (c :: ·)

/-- In one of the lines begun in a gap, a tab stands where only spaces indent. -/
def tabIndents (indent : Nat) (gap : List Char) : Bool :=
  let lines := (gap.map fun c => if isBreak c then '\n' else c).splitOn '\n'
  lines.tail.any fun line => (line.take indent).contains '\t'

/-- A plain scalar from here on, with the gap before it, and whether the last gap ends a line.  Its
further lines are indented by at least `indent`, which does not matter in brackets. -/
def plainFrom (inFlow : Bool) (indent : Nat) (gap : List Char) : Nat → Reader (List Char × Bool)
  | 0 => failure
  | fuel + 1 => do
    let c ← get
    let endsLine := gap.any isBreak
    if c.atEdge || c.rest.head? == some '#' then return ([], endsLine)
    let some word := plainWord inFlow c.rest | failure
    if word.isEmpty then return ([], endsLine)
    set (c.past word)
    let next ← readRun isSpace
    guard (!tabIndents indent next)
    let isOutside := !inFlow && (← get).column < indent
    let (more, endsLine) ← if next.isEmpty || isOutside then pure ([], next.any isBreak)
      else plainFrom inFlow indent next fuel
    return (foldGap gap ++ word ++ more, endsLine)

end DriveDecision.Yaml
