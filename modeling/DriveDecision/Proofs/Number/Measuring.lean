import Mathlib.Data.Rat.Cast.Lemmas
import DriveDecision.Plane.Point
import DriveDecision.Proofs.Number.Exact

/-!
# Proofs/Number/Measuring — scalars that lengths and headings are measured in

A linearly ordered field is not yet one to measure in: counts and decimals have to be what they say,
nothing but nothing may have no length, and no turn has to wrap to none.  How an angle is made of
two coordinates is left open.  The reals are such scalars, and so are the rationals, as far as they
have roots.
-/

namespace DriveDecision

/-- **Exact scalars that measure.** -/
class MeasuringScalar (α : Type) [ExactScalar α] : Prop where
  ofCount_eq (n : ℕ) : (Scalar.ofCount n : α) = n
  decimal_eq (m e : ℕ) : (Scalar.toOfScientific.ofScientific m true e : α) = m / 10 ^ e
  nonpos_of_sqrt_eq_zero {a : α} : Scalar.sqrt a = 0 → a ≤ 0
  epsilon_nonneg : (0 : α) ≤ Scalar.epsilon
  pi_pos : (0 : α) < Scalar.pi
  rem_zero (a : α) : Scalar.rem 0 a = 0

instance : MeasuringScalar ℚ where
  ofCount_eq _ := rfl
  decimal_eq m e := by
    have hdecimal := Rat.ofScientific_true_def (m := m) (e := e)
    rw [Rat.mkRat_eq_div] at hdecimal
    exact hdecimal.trans (by push_cast; rfl)
  nonpos_of_sqrt_eq_zero {a} h := by
    by_contra ha
    have hnum : Int.sqrt a.num ≠ 0 := by
      have hpos := Rat.num_pos.2 (not_le.1 ha)
      rw [Int.sqrt, Ne, Int.natCast_eq_zero, Nat.sqrt_eq_zero]
      omega
    have hden : a.den.sqrt ≠ 0 := by
      rw [Ne, Nat.sqrt_eq_zero]
      exact a.den_ne_zero
    exact hnum ((Rat.mkRat_eq_zero hden).1 h)
  epsilon_nonneg := by decide +kernel
  pi_pos := by decide +kernel
  rem_zero a := by
    change (0 : ℚ) - a * _ = 0
    simp

instance : MeasuringScalar ℝ where
  ofCount_eq _ := rfl
  decimal_eq m e := by
    have hdecimal := congrArg ((↑) : ℚ → ℝ) (MeasuringScalar.decimal_eq (α := ℚ) m e)
    push_cast at hdecimal
    exact hdecimal
  nonpos_of_sqrt_eq_zero := Real.sqrt_eq_zero'.1
  epsilon_nonneg := by
    change (0 : ℝ) ≤ 2 ^ (-52 : ℤ)
    positivity
  pi_pos := Real.pi_pos
  rem_zero a := by
    change (0 : ℝ) - a * _ = 0
    simp

variable {α : Type} [ExactScalar α] [MeasuringScalar α]

/-- **Only a point itself is no distance away.** -/
theorem Point.eq_of_distance_eq_zero {p q : Point α} (h : p.distance q = 0) : p = q := by
  have hsquares : (p.x - q.x) * (p.x - q.x) + (p.y - q.y) * (p.y - q.y) ≤ 0 :=
    MeasuringScalar.nonpos_of_sqrt_eq_zero h
  obtain ⟨hx, hy⟩ := (mul_self_add_mul_self_eq_zero).1
    (hsquares.antisymm (add_nonneg (mul_self_nonneg _) (mul_self_nonneg _)))
  rcases p with ⟨px, py⟩
  rcases q with ⟨qx, qy⟩
  exact congrArg₂ Point.mk (sub_eq_zero.1 hx) (sub_eq_zero.1 hy)

/-- **No turn wraps to none.** -/
theorem wrapAngle_zero : wrapAngle (0 : α) = 0 := by
  simp only [wrapAngle, MeasuringScalar.rem_zero]
  rw [if_neg MeasuringScalar.pi_pos.le.not_gt,
    if_neg (neg_lt_zero.2 MeasuringScalar.pi_pos).not_ge]

end DriveDecision
