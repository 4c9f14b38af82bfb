import Mathlib.Algebra.BigOperators.Group.List.Basic
import Mathlib.Algebra.Order.Field.Basic
import Mathlib.Analysis.SpecialFunctions.Complex.Arg
import Mathlib.Data.Rat.Sqrt
import DriveDecision.Proofs.Number.Order

/-!
# Proofs/Number/Exact — scalars without rounding

Over an exact scalar every element is a number, and sums and differences are what they should be.
The functions of angles may be anything.  The reals are exact, and so are the rationals, with which
a road along the first axis can be computed.
-/

namespace DriveDecision

/-- **A scalar type computed without rounding**: a linearly ordered field. -/
class ExactScalar (α : Type) extends Scalar α, Field α, LinearOrder α, IsStrictOrderedRing α

/-- Everything is a number, and all numbers are told apart. -/
instance {α : Type} [ExactScalar α] : OrderedScalar α where
  isNumber_zero := le_refl (0 : α)
  isNumber_of_le {a b} _ := ⟨le_refl a, le_refl b⟩
  le_trans := le_trans
  le_total {a b} _ _ := le_total a b
  lt_iff := lt_iff_le_not_ge

/-- Summed from the left or from the right, it is the same. -/
theorem Scalar.sum_eq {α : Type} [ExactScalar α] (as : List α) : Scalar.sum as = as.sum :=
  List.sum_eq_foldl.symm

/-! ## Walking

A walk up to `s`, of which some is behind, lands on an edge if that reaches `s` and counts. -/

/-- An edge that counts or has no length has no negative one. -/
theorem Scalar.nonneg_of_resolved {α : Type} [ExactScalar α] {edge : α}
    (hepsilon : (0 : α) ≤ Scalar.epsilon) (hedge : edge = 0 ∨ Scalar.epsilon < edge) : 0 ≤ edge :=
  hedge.elim Eq.ge fun hlong => hepsilon.trans hlong.le

/-- An edge that is landed on is landed on at a fraction of it… -/
theorem Scalar.fraction_of_landed {α : Type} [ExactScalar α] {s behind edge : α} (hedge : 0 < edge)
    (hbehind : behind < s) (hreached : s ≤ behind + edge) :
    0 < (s - behind) / edge ∧ (s - behind) / edge ≤ 1 :=
  ⟨div_pos (sub_pos.2 hbehind) hedge,
    (div_le_one hedge).2 (sub_le_iff_le_add'.2 hreached)⟩

/-- …and one that is passed over does not reach `s`, if it counts or has no length. -/
theorem Scalar.add_lt_of_passed {α : Type} [ExactScalar α] {s behind edge : α}
    (hedge : edge = 0 ∨ Scalar.epsilon < edge) (hbehind : behind < s)
    (hpassed : ¬ (s ≤ behind + edge ∧ Scalar.epsilon < edge)) : behind + edge < s := by
  rcases hedge with hnone | hsome
  · rwa [hnone, add_zero]
  · exact not_le.1 fun hreached => hpassed ⟨hreached, hsome⟩

/-- **The reals**, with the constants that doubles have. -/
noncomputable instance : ExactScalar ℝ where
  __ := (inferInstance : Field ℝ)
  __ := (inferInstance : LinearOrder ℝ)
  toIsStrictOrderedRing := inferInstance
  decLt := inferInstance
  decLe := inferInstance
  beq a b := decide (a = b)
  ofScientific := OfScientific.ofScientific
  ofCount n := n
  sqrt := Real.sqrt
  sin := Real.sin
  cos := Real.cos
  atan2 y x := Complex.arg ⟨x, y⟩
  rem a b := a - b * (if 0 ≤ a / b then (⌊a / b⌋ : ℝ) else (⌈a / b⌉ : ℝ))
  pi := Real.pi
  tau := 2 * Real.pi
  epsilon := 2 ^ (-52 : ℤ)
  greatest := 2 ^ 1024 - 2 ^ 971

/-- **The rationals**, for roads along the first axis: the only roots taken there are those of
squares, and every heading is zero. -/
instance : ExactScalar ℚ where
  __ := (inferInstance : Field ℚ)
  __ := (inferInstance : LinearOrder ℚ)
  toIsStrictOrderedRing := inferInstance
  decLt := inferInstance
  decLe := inferInstance
  ofScientific := OfScientific.ofScientific
  ofCount n := n
  sqrt := Rat.sqrt
  sin _ := 0
  cos _ := 1
  atan2 _ _ := 0
  rem a b := a - b * (if 0 ≤ a / b then (⌊a / b⌋ : ℚ) else (⌈a / b⌉ : ℚ))
  pi := 3.141592653589793
  tau := 6.283185307179586
  epsilon := 2 ^ (-52 : ℤ)
  greatest := 2 ^ 1024 - 2 ^ 971

end DriveDecision
