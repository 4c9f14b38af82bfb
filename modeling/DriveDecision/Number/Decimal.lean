import DriveDecision.Number.Binary64

/-!
# Number/Decimal — decimals of a positive quotient

Two ways to name a positive number with few digits: round it to a given count of significant digits,
or take the shortest decimal that only this double is nearest to.  Both are decided in natural
numbers.
-/

namespace DriveDecision

/-- The number `digits · 10 ^ exponent`. -/
structure Decimal where
  digits : Nat
  exponent : Int
  deriving DecidableEq, Repr

namespace Decimal

/-- The digits of a natural number, written. -/
def written (n : Nat) : String := String.ofList (Nat.toDigits 10 n)

/-- How many digits a natural number is written with. -/
def width (n : Nat) : Nat := (Nat.toDigits 10 n).length

/-- `num / den · 10 ^ shift`, as a quotient again. -/
def scale (num den : Nat) (shift : Int) : Nat × Nat :=
  (num * Nat.pow 10 shift.toNat, den * Nat.pow 10 (-shift).toNat)

/-- The exponent of the leading digit of `num / den`: the widths of the two determine it up to
one. -/
def leading (num den : Nat) : Int :=
  let guess : Int := (width num : Int) - width den
  let (n, d) := scale num den (-guess)
  if d ≤ n then guess else guess - 1

/-- **Rounded to `count` significant digits**, a half to the even digit.  A carry past the leading
digit moves the exponent. -/
def significant (count num den : Nat) : Decimal :=
  let exponent := leading num den - (count - 1 : Nat)
  let (n, d) := scale num den (-exponent)
  let digits := roundHalfEven n d
  if digits = Nat.pow 10 count then ⟨digits / 10, exponent + 1⟩ else ⟨digits, exponent⟩

/-- The same number without trailing zeros, looking at most `fuel` digits back. -/
def trim (d : Decimal) : Nat → Decimal
  | 0 => d
  | fuel + 1 => if d.digits % 10 = 0 then trim ⟨d.digits / 10, d.exponent + 1⟩ fuel else d

/-! ## The shortest decimal of a double

The reals nearest to `mantissa · 2 ^ exponent` form an interval, open or closed as the mantissa is
odd or even.  Of the decimals inside it with the fewest digits, the nearest names the double. -/

/-- The interval of reals that round to a double, in quarters of its last place. -/
structure Rounding where
  lower : Nat
  upper : Nat
  closed : Bool
  /-- The quarter: a power of two. -/
  unit : Int

/-- The gap below a power of two is half the gap above it. -/
def Rounding.of (mantissa : Nat) (exponent : Int) : Rounding where
  lower :=
    if mantissa = Binary64.hiddenBit ∧ exponent ≠ -1074 then 4 * mantissa - 1 else 4 * mantissa - 2
  upper := 4 * mantissa + 2
  closed := mantissa % 2 == 0
  unit := exponent - 2

/-- Whether `digits · 10 ^ exponent` rounds to the double. -/
def Rounding.holds (r : Rounding) (digits : Nat) (exponent : Int) : Bool :=
  let value := digits * Nat.pow 10 exponent.toNat * Nat.pow 2 (-r.unit).toNat
  let measure := Nat.pow 10 (-exponent).toNat * Nat.pow 2 r.unit.toNat
  if r.closed then r.lower * measure ≤ value && value ≤ r.upper * measure
  else r.lower * measure < value && value < r.upper * measure

/-- Try the two neighbours of `num / den` among decimals of `17 - fuel` digits, then of one more;
the nearer wins and a tie goes up. -/
def Rounding.search (r : Rounding) (num den : Nat) (lead : Int) : Nat → Decimal
  | 0 => significant 17 num den
  | fuel + 1 =>
    let exponent := lead - (16 - fuel : Nat)
    let (n, d) := scale num den (-exponent)
    let low := n / d
    match r.holds low exponent, r.holds (low + 1) exponent with
    | true, true => ⟨if 2 * (n % d) < d then low else low + 1, exponent⟩
    | true, false => ⟨low, exponent⟩
    | false, true => ⟨low + 1, exponent⟩
    | false, false => r.search num den lead fuel

/-- **The shortest decimal that rounds to `mantissa · 2 ^ exponent`**, for a positive mantissa. -/
def shortest (mantissa : Nat) (exponent : Int) : Decimal :=
  let (num, den) := Binary64.quotient mantissa exponent
  ((Rounding.of mantissa exponent).search num den (leading num den) 17).trim 17

/-! ## Layouts -/

/-- Digits and a point, never an exponent; an integer has no point. -/
def positional (d : Decimal) : String :=
  let zeros (n : Nat) := String.ofList (List.replicate n '0')
  if 0 ≤ d.exponent then written d.digits ++ zeros d.exponent.toNat
  else
    let places := (-d.exponent).toNat
    let text := Nat.toDigits 10 d.digits
    if text.length ≤ places then "0." ++ zeros (places - text.length) ++ String.ofList text
    else
      let whole := text.length - places
      String.ofList (text.take whole) ++ "." ++ String.ofList (text.drop whole)

/-- One digit, the rest after a point, and the exponent of the first. -/
def scientific (d : Decimal) : String :=
  let text := Nat.toDigits 10 d.digits
  let exponent := toString (d.exponent + (text.length - 1 : Nat))
  match text with
  | [digit] => digit.toString ++ "e" ++ exponent
  | _ => String.ofList (text.take 1) ++ "." ++ String.ofList (text.drop 1) ++ "e" ++ exponent

end Decimal

end DriveDecision
