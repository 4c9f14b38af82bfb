import DriveDecision.Number.Scalar
import DriveDecision.Number.Binary64

/-!
# Number/Double — doubles as scalars

Each operation rounds to the nearest double; the remainder is exact.
-/

namespace DriveDecision

instance : Scalar Float where
  zero := 0
  one := 1
  decLt := inferInstance
  decLe := inferInstance
  ofCount := Float.ofNat
  sqrt := Float.sqrt
  sin := Float.sin
  cos := Float.cos
  atan2 := Float.atan2
  rem := Binary64.rem
  pi := 3.141592653589793
  tau := 6.283185307179586
  epsilon := 2.220446049250313e-16
  greatest := 1.7976931348623157e308

end DriveDecision
