import DriveDecision.Proofs.Number.Exact
import DriveDecision.Proofs.Number.Remainder
import DriveDecision.Road.Path
import Mathlib.Algebra.Order.ToIntervalMod

/-!
# Proofs/Plane/Wrapping — an angle has one representative

    angle       -3π   -2π   -3π/2   -π   0   π   3π/2   2π   3π
    remainder    -π     0   -3π/2   -π   0   π   3π/2    0    π     within a turn, either way
    wrapped       π     0    π/2     π   0   π   -π/2    0    π     in (-π, π]

The remainder by a full turn is short of a turn, on whichever side of none (`IsRemainder`), so that
at most one turn is missing to `(-π, π]`.  No two angles of this interval are whole turns apart:
wrapping is the library's reduction to it (`wrapAngle_eq_toIocMod`).
-/

namespace DriveDecision

/-- **Exact scalars that angles turn in**: a full turn is twice a half one, and divisions leave
remainders. -/
class TurningScalar (α : Type) [ExactScalar α] : Prop where
  pi_pos : (0 : α) < Scalar.pi
  tau_eq : (Scalar.tau : α) = 2 * Scalar.pi
  isRemainder_rem (a : α) {b : α} : b ≠ 0 → IsRemainder a b (Scalar.rem a b)

instance : TurningScalar ℝ where
  pi_pos := Real.pi_pos
  tau_eq := rfl
  isRemainder_rem a _ hb := isRemainder_truncated a hb

instance : TurningScalar ℚ where
  pi_pos := by decide +kernel
  tau_eq := by decide +kernel
  isRemainder_rem a _ hb := isRemainder_truncated a hb

/-! ## Wrapping -/

variable {α : Type} [ExactScalar α] [TurningScalar α]

namespace TurningScalar

theorem tau_pos : (0 : α) < Scalar.tau := by
  rw [tau_eq]
  exact mul_pos two_pos pi_pos

/-- A half turn back and a full one ahead is a half turn ahead. -/
theorem neg_pi_add_tau : -Scalar.pi + Scalar.tau = (Scalar.pi : α) := by
  rw [tau_eq]
  ring

/-- **Enough turns exceed every angle**, since what they leave of it is short of a turn. -/
instance (priority := low) : Archimedean α where
  arch a b hb := by
    obtain ⟨⟨quotient, ha⟩, hshort⟩ := isRemainder_rem a hb.ne'
    refine ⟨quotient.natAbs + 1, ?_⟩
    have hleft : Scalar.rem a b < b := (le_abs_self _).trans_lt (hshort.trans_eq (abs_of_pos hb))
    have hturns : (quotient : α) ≤ (quotient.natAbs : α) := by
      rw [Nat.cast_natAbs]
      exact_mod_cast le_abs_self quotient
    calc a = Scalar.rem a b + quotient * b := ha
      _ ≤ b + quotient.natAbs * b := by gcongr
      _ = (quotient.natAbs + 1) • b := by rw [nsmul_eq_mul]; push_cast; ring

end TurningScalar

open TurningScalar

/-- **Wrapping takes the remainder to `(-π, π]`**, by a turn back, a turn ahead or none. -/
theorem wrapAngle_mem_Ioc (angle : α) : wrapAngle angle ∈ Set.Ioc (-Scalar.pi) Scalar.pi := by
  have hpi : (0 : α) < Scalar.pi := pi_pos
  have htau : (Scalar.tau : α) = 2 * Scalar.pi := tau_eq
  have hshort := (isRemainder_rem angle tau_pos.ne').short
  rw [abs_of_pos (tau_pos (α := α)), abs_lt] at hshort
  simp only [wrapAngle, Set.mem_Ioc]
  split_ifs with hover hunder
  · constructor <;> linarith
  · constructor <;> linarith
  · exact ⟨not_le.1 hunder, not_lt.1 hover⟩

/-- **Wrapping makes whole turns.** -/
theorem exists_eq_wrapAngle_add (angle : α) :
    ∃ turns : ℤ, angle = wrapAngle angle + turns • Scalar.tau := by
  obtain ⟨quotient, hangle⟩ := (isRemainder_rem angle (tau_pos (α := α)).ne').multiple
  simp only [wrapAngle, zsmul_eq_mul]
  split_ifs
  · refine ⟨quotient + 1, hangle.trans ?_⟩
    push_cast
    ring
  · refine ⟨quotient - 1, hangle.trans ?_⟩
    push_cast
    ring
  · exact ⟨quotient, hangle⟩

/-- **Wrapping is reduction to `(-π, π]` by whole turns.** -/
theorem wrapAngle_eq_toIocMod (angle : α) :
    wrapAngle angle = toIocMod tau_pos (-Scalar.pi) angle := by
  refine ((toIocMod_eq_iff tau_pos).2 ⟨?_, exists_eq_wrapAngle_add angle⟩).symm
  rw [neg_pi_add_tau]
  exact wrapAngle_mem_Ioc angle

variable (α) in
/-- **The wrapped angle is a canonical representative.**  It lies in `(-π, π]` and differs from the
angle by whole turns; so wrapping twice is wrapping once, and two angles are wrapped to the same one
exactly if they differ by whole turns. -/
theorem wrapped_angle_canonical :
    (∀ angle : α, -Scalar.pi < wrapAngle angle ∧ wrapAngle angle ≤ Scalar.pi
        ∧ ∃ turns : ℤ, angle - wrapAngle angle = turns * Scalar.tau)
      ∧ (∀ angle : α, wrapAngle (wrapAngle angle) = wrapAngle angle)
      ∧ ∀ angle other : α, wrapAngle angle = wrapAngle other
        ↔ ∃ turns : ℤ, other - angle = turns * Scalar.tau := by
  refine ⟨fun angle => ?_, fun angle => ?_, fun angle other => ?_⟩
  · obtain ⟨hover, hunder⟩ := wrapAngle_mem_Ioc angle
    obtain ⟨turns, hturns⟩ := exists_eq_wrapAngle_add angle
    refine ⟨hover, hunder, turns, ?_⟩
    rw [← zsmul_eq_mul, sub_eq_iff_eq_add']
    exact hturns
  · rw [wrapAngle_eq_toIocMod, wrapAngle_eq_toIocMod, toIocMod_toIocMod]
  · simp only [wrapAngle_eq_toIocMod, toIocMod_eq_toIocMod, zsmul_eq_mul]

/-- Three half turns either way are whole turns apart, and are one half turn to the left; what is in
`(-π, π]` stays as it is. -/
theorem half_turns_wrapped :
    wrapAngle (3 * Scalar.pi : ℚ) = wrapAngle (-3 * Scalar.pi)
      ∧ wrapAngle (-3 * Scalar.pi : ℚ) = Scalar.pi
      ∧ wrapAngle (wrapAngle (-0.5 : ℚ)) = wrapAngle (-0.5)
      ∧ wrapAngle (-0.5 : ℚ) = -0.5 := by
  obtain ⟨-, hidempotent, hsame⟩ := wrapped_angle_canonical ℚ
  refine ⟨(hsame _ _).2 ⟨-3, ?_⟩, by decide +kernel, hidempotent _, by decide +kernel⟩
  decide +kernel

/-! ## Headings -/

/-- **Whole turns of a pose leave it on the same segment**: headings are compared by the wrapped
angle between them. -/
theorem Path.locate?_turned (path : Path α) (near : Nearness α) (pose : Pose α) (turns : ℤ) :
    path.locate? near { pose with yaw := pose.yaw + turns * Scalar.tau }
      = path.locate? near pose := by
  have hadmits (point : PathPoint α) :
      near.admits { pose with yaw := pose.yaw + turns * Scalar.tau } point
        = near.admits pose point := by
    have hwrapped : wrapAngle (point.pose.yaw - (pose.yaw + turns * Scalar.tau))
        = wrapAngle (point.pose.yaw - pose.yaw) := by
      rw [wrapAngle_eq_toIocMod, wrapAngle_eq_toIocMod, ← sub_sub, ← zsmul_eq_mul,
        toIocMod_sub_zsmul]
    simp only [Nearness.admits, hwrapped]
  simp only [locate?, hadmits]

end DriveDecision
