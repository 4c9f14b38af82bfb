/-!
# Number/Binary64 — a double read exactly

A double is an integer times a power of two, an infinity, or no number.  `Binary64.ofFloat` takes it
apart; everything that must be exact — the remainder, a duration, a decimal text — is computed on
the parts with natural numbers.
-/

namespace DriveDecision

/-- **What a double stands for**: `± mantissa · 2 ^ exponent`, an infinity, or no number. -/
inductive Binary64 where
  | nan
  | infinite (negative : Bool)
  | finite (negative : Bool) (mantissa : Nat) (exponent : Int)
  deriving DecidableEq, Repr

namespace Binary64

/-- The leading bit of a normal mantissa, `2 ^ 52`, which is not stored. -/
def hiddenBit : Nat := 4503599627370496

/-- The parts of a double, from its sign, exponent and fraction fields. -/
def ofFloat (x : Float) : Binary64 :=
  let bits := x.toBits.toNat
  let negative := (bits >>> 63) == 1
  let field : Nat := (bits >>> 52) % 2048
  let fraction : Nat := bits % hiddenBit
  if field = 2047 then
    if fraction = 0 then .infinite negative else .nan
  else if field = 0 then .finite negative fraction (-1074)
  else .finite negative (hiddenBit + fraction) ((field : Int) - 1075)

/-- `2 ^ exponent` as a double, for the exponents of finite doubles. -/
def powerOfTwo (exponent : Int) : Float :=
  if exponent < -1022 then .ofBits (Nat.pow 2 (exponent + 1074).toNat).toUInt64
  else .ofBits ((exponent + 1023).toNat * hiddenBit).toUInt64

/-- The double of a sign, a mantissa below `2 ^ 53` and a power of two. -/
def toFloat (negative : Bool) (mantissa : Nat) (exponent : Int) : Float :=
  let magnitude := Float.ofNat mantissa * powerOfTwo exponent
  if negative then -magnitude else magnitude

/-- `mantissa · 2 ^ exponent` as a quotient of naturals. -/
def quotient (mantissa : Nat) (exponent : Int) : Nat × Nat :=
  (mantissa * Nat.pow 2 exponent.toNat, Nat.pow 2 (-exponent).toNat)

/-- **The remainder of truncated division, exactly**: both operands are counted in the smaller of
their two powers of two, where the remainder of the counts is the answer. -/
def rem (x y : Float) : Float :=
  match ofFloat x, ofFloat y with
  | .finite negative m e, .finite _ n f =>
    if n = 0 then 0 / 0
    else
      let unit := Min.min e f
      let left := m * Nat.pow 2 (e - unit).toNat % (n * Nat.pow 2 (f - unit).toNat)
      toFloat negative left unit
  | .finite .., .infinite _ => x
  | _, _ => 0 / 0

end Binary64

/-- `num / den` to the nearest integer, a half to the even one. -/
def roundHalfEven (num den : Nat) : Nat :=
  let floor := num / den
  match compare (2 * (num % den)) den with
  | .lt => floor
  | .gt => floor + 1
  | .eq => floor + floor % 2

end DriveDecision
