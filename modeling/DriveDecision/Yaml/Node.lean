/-!
# Yaml/Node — nodes, and what a scalar can be read as

A node is a scalar, a list, a mapping or a reference to another node.  How a scalar is written
decides whether it can be a number or a truth value: a plain one can, and a literal one if its tag
says so; any other is text, whatever it looks like.
-/

namespace DriveDecision.Yaml

/-- How a scalar is written. -/
inductive ScalarStyle where
  | plain
  | quoted
  /-- A block that keeps its line ends. -/
  | literal
  /-- A block whose line ends become spaces. -/
  | folded
  deriving DecidableEq, Repr

/-- A node of a document. -/
inductive Node where
  | scalar (text : String) (style : ScalarStyle) (tag : Option String)
  | sequence (items : List Node)
  | mapping (entries : List (Node × Node))
  /-- The node whose anchor has a number. -/
  | reference (number : Nat)
  deriving Repr, Inhabited

/-- The tags of the types every text knows start with this. -/
def standardTags : String := "tag:yaml.org,2002:"

namespace Node

/-- Nothing written where a node could be. -/
def empty : Node := .scalar "" .plain none

/-- The text of a scalar that can be a value of the standard type `type`. -/
def valueText? (type : String) : Node → Option String
  | scalar text .plain _ => some text
  | scalar text .literal tag => if tag = some (standardTags ++ type) then some text else none
  | _ => none

/-- The text of a scalar. -/
def text? : Node → Option String
  | scalar text _ _ => some text
  | _ => none

end Node

/-! ## Truth values -/

def Node.bool? (node : Node) : Option Bool :=
  (node.valueText? "bool").bind fun text =>
    if ["true", "True", "TRUE"].contains text then some true
    else if ["false", "False", "FALSE"].contains text then some false
    else none

/-! ## Natural numbers -/

/-- The value of a digit, below `base`. -/
def digit? (base : Nat) (c : Char) : Option Nat :=
  let value :=
    if '0' ≤ c ∧ c ≤ '9' then c.toNat - '0'.toNat
    else if 'a' ≤ c ∧ c ≤ 'f' then c.toNat - 'a'.toNat + 10
    else if 'A' ≤ c ∧ c ≤ 'F' then c.toNat - 'A'.toNat + 10
    else base
  if value < base then some value else none

/-- The number written by one or more digits. -/
def digits? (base : Nat) : List Char → Option Nat
  | [] => none
  | c :: cs => (c :: cs).foldlM (fun n c => (digit? base c).map (base * n + ·)) 0

/-- Decimal digits do not start with a zero unless there is just one. -/
def decimal? (cs : List Char) : Option Nat :=
  match cs with
  | '0' :: _ :: _ => none
  | _ => digits? 10 cs

/-- **A natural number**: decimal, or in a base named by `0x`, `0o` or `0b`; a plus sign may go
first. -/
def Node.nat? (node : Node) : Option Nat :=
  (node.valueText? "int").bind fun text =>
    let unsigned := match text.toList with
      | '+' :: cs => cs
      | cs => cs
    match unsigned with
    | '0' :: 'x' :: cs => digits? 16 cs
    | '0' :: 'o' :: cs => digits? 8 cs
    | '0' :: 'b' :: cs => digits? 2 cs
    | cs => decimal? cs

/-! ## Decimal fractions -/

/-- The sign and the rest. -/
def signed (cs : List Char) : Bool × List Char :=
  match cs with
  | '-' :: cs => (true, cs)
  | '+' :: cs => (false, cs)
  | cs => (false, cs)

/-- An exponent: a sign, and one or more digits. -/
def exponent? (cs : List Char) : Option Int :=
  let (isNegative, cs) := signed cs
  (digits? 10 cs).map fun n => if isNegative then -(n : Int) else n

/-- Digits, with or without a point, and with at least one digit: their number and the exponent of
the last. -/
def mantissa? (cs : List Char) : Option (Nat × Int) :=
  match cs.span (· != '.') with
  | (whole, []) => (digits? 10 whole).map fun n => (n, 0)
  | (whole, _ :: places) => (digits? 10 (whole ++ places)).map fun n => (n, -(places.length : Int))

/-- `digits · 10 ^ exponent` as a double.  Outside of what doubles reach, the answer is known
without computing the power. -/
def toDouble (digits : Nat) (exponent : Int) : Float :=
  let lead := (Nat.toDigits 10 digits).length + exponent
  if digits = 0 ∨ lead < -400 then 0
  else if 400 < lead then 1 / 0
  else if exponent < 0 then .ofScientific digits true (-exponent).toNat
  else .ofScientific digits false exponent.toNat

/-- A finite number without a plus sign. -/
def finite? (cs : List Char) : Option Float :=
  let (isNegative, magnitude) := match cs with
    | '-' :: cs => (true, cs)
    | cs => (false, cs)
  let value? := match magnitude.span fun c => c != 'e' && c != 'E' with
    | (digits, []) => (mantissa? digits).map fun (n, e) => toDouble n e
    | (digits, _ :: power) =>
      (mantissa? digits).bind fun (n, e) => (exponent? power).map fun p => toDouble n (e + p)
  value?.bind fun x => if x.isFinite then some (if isNegative then -x else x) else none

/-- **A double**: a decimal number that does not overflow, or one of the words for infinity and for
no number. -/
def Node.float? (node : Node) : Option Float :=
  (node.valueText? "float").bind fun text =>
    if [".inf", ".Inf", ".INF", "+.inf", "+.Inf", "+.INF"].contains text then some (1 / 0)
    else if ["-.inf", "-.Inf", "-.INF"].contains text then some (-1 / 0)
    else if [".nan", ".NaN", ".NAN"].contains text then some (0 / 0)
    else match text.toList with
      | '+' :: '-' :: _ => none
      | '+' :: cs => finite? cs
      | cs => finite? cs

end DriveDecision.Yaml
