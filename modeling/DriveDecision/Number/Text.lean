import DriveDecision.Number.Decimal

/-!
# Number/Text — doubles in messages

`plain` is for sentences: the shortest digits, never an exponent, no point on an integer.
`explicit` is for dumps: a double shows itself by a point or an exponent, and very large or small
magnitudes take the exponent.
-/

namespace DriveDecision.Number

/-- The words of what is not a finite number, and a layout for the rest. -/
def textWith (zero : String) (layout : Nat → Int → String) (x : Float) : String :=
  let signed (negative : Bool) (text : String) := if negative then "-" ++ text else text
  match Binary64.ofFloat x with
  | .nan => "NaN"
  | .infinite negative => signed negative "inf"
  | .finite negative 0 _ => signed negative zero
  | .finite negative mantissa exponent => signed negative (layout mantissa exponent)

/-- A double in a sentence. -/
def plain : Float → String :=
  textWith "0" fun mantissa exponent => (Decimal.shortest mantissa exponent).positional

/-- A double in a dump: positional from `10 ^ -4` up to `10 ^ 16`, with at least one place. -/
def explicit : Float → String :=
  textWith "0.0" fun mantissa exponent =>
    let d := Decimal.shortest mantissa exponent
    let lead := d.exponent + (Decimal.width d.digits - 1 : Nat)
    if lead < -4 || 16 ≤ lead then d.scientific
    else if 0 ≤ d.exponent then d.positional ++ ".0"
    else d.positional

/-- A double to `count` significant digits in scientific notation; both zeros are `0`. -/
def significant (count : Nat) (x : Float) : String :=
  match Binary64.ofFloat x with
  | .finite _ 0 _ => "0"
  | _ =>
    textWith "0" (fun mantissa exponent =>
      let (num, den) := Binary64.quotient mantissa exponent
      (Decimal.significant count num den).scientific) x

end DriveDecision.Number
