import DriveDecision.Yaml.Scalar

/-!
# Yaml/BlockScalar — literal and folded scalars

The lines of a block scalar are indented alike, by as much as the first one or as its header says.
-/

namespace DriveDecision.Yaml

/-- What happens to the line ends behind the last line. -/
inductive Chomping where
  | strip
  | clip
  | keep
  deriving DecidableEq, Repr

/-- How a block scalar is to be read. -/
structure BlockHeader where
  style : ScalarStyle
  chomping : Chomping
  /-- How much deeper than the node around it the lines are indented, if that is told. -/
  deeper : Option Nat

namespace BlockHeader

def chomping? : Reader (Option Chomping) := do
  let c ← get
  match c.rest with
  | '+' :: _ =>
    set c.step
    return some .keep
  | '-' :: _ =>
    set c.step
    return some .strip
  | _ => return none

/-- A digit that is not zero. -/
def deeper? : Reader (Option Nat) := do
  let c ← get
  match c.rest.head?.bind (digit? 10) with
  | none => return none
  | some n =>
    guard (0 < n)
    set c.step
    return some n

/-- The header: the style, then in either order what to do at the end and the indentation. -/
def read : Reader BlockHeader := do
  let style : ScalarStyle := if (← peek) == some '|' then .literal else .folded
  modify Cursor.step
  let first ← chomping?
  let deeper ← deeper?
  let chomping ← if first.isSome then pure first else
    if deeper.isSome then chomping? else pure none
  nextLine
  return ⟨style, chomping.getD .clip, deeper⟩

end BlockHeader

/-- Past empty lines and the indentation behind them: the line ends, and the deepest column in
between.  Without a given `indent`, all spaces indent. -/
def emptyLines (indent : Option Nat) (deepest : Nat) : Nat → Reader (List Char × Nat)
  | 0 => failure
  | fuel + 1 => do
    let c ← get
    let spaces := c.rest.takeWhile (· == ' ')
    let c := c.past (indent.elim spaces fun n => spaces.take (n - c.column))
    set c
    let deepest := max deepest c.column
    guard (!(c.rest.head? == some '\t' && indent.all (c.column < ·)))
    match c.rest with
    | [] => return ([], deepest)
    | ch :: _ =>
      if isBreak ch then
        set c.step
        let (breaks, deepest) ← emptyLines indent deepest fuel
        return (ch :: breaks, deepest)
      else return ([], deepest)

/-- The lines of a block scalar from here on.  `ending` is the end of the line before, `breaks` what
ends the empty lines behind it.  Where lines are folded, one that starts with a blank stays apart
from those around it. -/
def blockLines (header : BlockHeader) (indent : Nat) (ending breaks : List Char)
    (afterBlank : Bool) : Nat → Reader (List Char)
  | 0 => failure
  | fuel + 1 => do
    let c ← get
    if c.column != indent || c.rest.isEmpty then
      return match header.chomping with
        | .strip => []
        | .clip => ending
        | .keep => ending ++ breaks
    let startsBlank := c.rest.head?.any isBlank
    let folds := header.style == .folded && ending == ['\n'] && !afterBlank && !startsBlank
    let joint := if folds then foldBreaks (ending ++ breaks) else ending ++ breaks
    let line ← readRun (!isBreak ·)
    let ending := ((← get).rest.take 1)
    modify Cursor.step
    let (breaks, _) ← emptyLines (some indent) 0 fuel
    let more ← blockLines header indent ending breaks startsBlank fuel
    return joint ++ line ++ more

/-- A block scalar in a block whose content is indented by at least `least`. -/
def blockScalar (least : Nat) (fuel : Nat) : Reader (String × ScalarStyle) := do
  let header ← BlockHeader.read
  let given := header.deeper.map (least - 1 + ·)
  let (breaks, deepest) ← emptyLines given 0 fuel
  let indent := given.getD (max (max deepest least) 1)
  return (String.ofList (← blockLines header indent [] breaks false fuel), header.style)

end DriveDecision.Yaml
