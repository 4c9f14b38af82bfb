import DriveDecision.Yaml.Cursor
import DriveDecision.Yaml.Token

/-!
# Yaml/Property — anchors and tags of nodes, and directives

An anchor names a node; a tag tells its type.  A tag is a start and a suffix, the start given by a
handle that a directive can introduce.
-/

namespace DriveDecision.Yaml

/-! ## Anchors -/

/-- A name behind its mark: at its end stands a blank or what can follow a node. -/
def name : Reader String := do
  modify Cursor.step
  let run ← readRun isNameChar
  let after := (← get).rest
  guard (!run.isEmpty && (endsWord after || after.head?.any ("?:,]\x7d%@\x60".toList.contains ·)))
  return String.ofList run

/-! ## Tags -/

/-- An octet as two hexadecimal digits behind a percent sign. -/
def octet : Reader Nat := do
  expect '%'
  let run := (← get).rest.take 2
  guard (run.length == 2)
  modify (Cursor.past run)
  let some n := digits? 16 run | failure
  return n

/-- How many octets follow the first one of a character. -/
def octetsBehind? (first : Nat) : Option Nat :=
  if first < 0x80 then some 0
  else if first < 0xc0 then none
  else if first < 0xe0 then some 1
  else if first < 0xf0 then some 2
  else if first < 0xf8 then some 3
  else none

/-- A character given by its octets, which stay apart. -/
def octets : Reader (List Char) := do
  let first ← octet
  let some n := octetsBehind? first | failure
  let more ← (List.replicate n ()).mapM fun _ => octet
  guard (more.all fun b => 0x80 ≤ b && b < 0xc0)
  return (first :: more).map Char.ofNat

/-- Characters of a tag; in full tags and in directives there are some more. -/
def isTagChar (isFull : Bool) (c : Char) : Bool :=
  isNameChar c || ";/?:@&=+$.%!~*'()".toList.contains c || (isFull && ",[]".toList.contains c)

/-- The characters of a tag from here on. -/
def tagChars (isFull : Bool) : Nat → Reader (List Char)
  | 0 => failure
  | fuel + 1 => do
    match ← peek with
    | none => return []
    | some c =>
      if !isTagChar isFull c then return []
      let read ← if c == '%' then octets else do
        modify Cursor.step
        pure [c]
      return read ++ (← tagChars isFull fuel)

/-- The characters of a tag that count: those before a zero octet. -/
def beforeZero (chars : List Char) : List Char := chars.takeWhile (· != '\x00')

/-- One or more characters of a tag. -/
def someTagChars (isFull : Bool) (fuel : Nat) : Reader String := do
  let chars ← tagChars isFull fuel
  guard (!chars.isEmpty)
  return String.ofList (beforeZero chars)

/-- An exclamation mark, the name behind it, and whether another mark ends it. -/
def handle : Reader (List Char × Bool) := do
  expect '!'
  let run ← readRun isNameChar
  let isClosed := (← peek) == some '!'
  if isClosed then modify Cursor.step
  return (run, isClosed)

/-- A tag behind a handle; a name that is no handle starts the suffix of the shortest one. -/
def shortTag (fuel : Nat) : Reader Token := do
  let (run, isClosed) ← handle
  if isClosed then
    return .tag (String.ofList ('!' :: run ++ ['!'])) (← someTagChars false fuel)
  let suffix := beforeZero (run ++ (← tagChars false fuel))
  return if suffix.isEmpty then .tag "" "!" else .tag "!" (String.ofList suffix)

/-- A tag: short, or in full between angle brackets. -/
def tag (inFlow : Bool) (fuel : Nat) : Reader Token := do
  let c ← get
  let read ← if c.rest.take 2 == ['!', '<'] then do
      set c.step.step
      let full ← someTagChars true fuel
      expect '>'
      pure (.tag "" full)
    else shortTag fuel
  let after := (← get).rest
  guard (endsWord after || (inFlow && after.head? == some ','))
  return read

/-! ## Directives -/

/-- A number of a version. -/
def versionNumber : Reader Nat := do
  let run ← readRun Char.isDigit
  guard (run.length ≤ 9)
  let some n := digits? 10 run | failure
  return n

/-- The version of the notation: only two are known. -/
def version : Reader Token := do
  let major ← versionNumber
  expect '.'
  let minor ← versionNumber
  guard (major == 1 && (minor == 1 || minor == 2))
  return .version

/-- A handle and the start of the tags it stands for. -/
def handleStart (fuel : Nat) : Reader Token := do
  let (run, isClosed) ← handle
  guard (isClosed || run.isEmpty)
  guard ((← peek).any isBlank)
  modify (·.skip isBlank)
  let start ← someTagChars true fuel
  guard (endsWord (← get).rest)
  return .handle (String.ofList ('!' :: run ++ if isClosed then ['!'] else [])) start

/-- A line that tells how to read the document below it. -/
def directive (fuel : Nat) : Reader Token := do
  expect '%'
  let run ← readRun isNameChar
  guard (endsWord (← get).rest)
  modify (·.skip isBlank)
  let read ← match String.ofList run with
    | "YAML" => version
    | "TAG" => handleStart fuel
    | _ => failure
  nextLine
  return read

end DriveDecision.Yaml
