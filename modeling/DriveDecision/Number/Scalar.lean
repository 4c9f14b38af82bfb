/-!
# Number/Scalar — the arithmetic the geometry is written in

Paths, lanes and signal spans are measured with a handful of operations.  `Scalar` names them once,
so the same definitions run on doubles (`Number/Double`) and can be read over an exact field, where
a distance is a distance and not its rounding.
-/

namespace DriveDecision

/-- **A number type the geometry can be computed in.**  Comparison is decidable but need not be
total: a double may be no number at all, and then every comparison with it fails. -/
class Scalar (α : Type) extends Add α, Sub α, Mul α, Div α, Neg α, Zero α, One α, OfScientific α,
    LT α, LE α, BEq α where
  decLt : DecidableLT α
  decLe : DecidableLE α
  /-- A count, as a scalar. -/
  ofCount : Nat → α
  sqrt : α → α
  sin : α → α
  cos : α → α
  /-- The angle of the vector `(x, y)`; the ordinate comes first. -/
  atan2 : α → α → α
  /-- The remainder of truncated division: it has the sign of the dividend. -/
  rem : α → α → α
  /-- Half a turn. -/
  pi : α
  /-- A full turn. -/
  tau : α
  /-- A segment no longer than this has no direction. -/
  epsilon : α
  /-- The distance of what cannot be measured; no measured distance exceeds it. -/
  greatest : α

attribute [reducible, instance] Scalar.decLt Scalar.decLe

namespace Scalar

variable {α : Type} [Scalar α]

/-- The magnitude of a scalar. -/
def abs (a : α) : α := if a < 0 then -a else a

/-- The smaller of two scalars, or the one that is a number. -/
def min (a b : α) : α := if a ≤ b || !(b == b) then a else b

/-- The larger of two scalars, or the one that is a number. -/
def max (a b : α) : α := if b ≤ a || !(b == b) then a else b

/-- `a` moved into `[lo, hi]`; what is not a number stays as it is. -/
def clamp (a lo hi : α) : α := if a < lo then lo else if hi < a then hi else a

/-- The sum of a list, from the left. -/
def sum (as : List α) : α := as.foldl (· + ·) 0

/-- Degrees as radians. -/
def radians (degrees : α) : α := degrees * (pi / 180.0)

@[simp] theorem sum_nil : sum ([] : List α) = 0 := rfl

theorem sum_concat (as : List α) (a : α) : sum (as ++ [a]) = sum as + a := by
  simp [sum, List.foldl_append]

end Scalar

end DriveDecision
