import DriveDecision.Number.Binary64
import Mathlib.Algebra.Order.Field.Power
import Mathlib.Algebra.Order.Floor.Ring
import Mathlib.Tactic.FieldSimp
import Mathlib.Tactic.Linarith
import Mathlib.Tactic.Ring

/-!
# Proofs/Number/Remainder — what a division leaves

    7 = 1 + 3 · 2      7 = -1 + 4 · 2      -7 = -1 - 3 · 2

A remainder is short of the divisor and a multiple of it away from the dividend (`IsRemainder`).
Cutting the quotient off toward zero leaves one, with the sign of the dividend.  That of two doubles
is computed on their parts and needs no rounding: its mantissa is no longer than theirs
(`Binary64.rem_of_finite`).
-/

namespace DriveDecision

/-- **What a division leaves**: short of the divisor and a multiple of it away from the dividend. -/
structure IsRemainder {K : Type} [Field K] [LinearOrder K] (dividend divisor left : K) : Prop where
  multiple : ∃ quotient : ℤ, dividend = left + quotient * divisor
  short : |left| < |divisor|

section Field

variable {K : Type} [Field K] [LinearOrder K] [IsStrictOrderedRing K] {a b : K}

/-- **A quotient off by less than one** leaves a remainder. -/
theorem isRemainder_of_abs_lt_one (hb : b ≠ 0) {quotient : ℤ} (h : |a / b - quotient| < 1) :
    IsRemainder a b (a - b * quotient) := by
  refine ⟨⟨quotient, by ring⟩, ?_⟩
  have hsplit : a - b * quotient = b * (a / b - quotient) := by field_simp
  rw [hsplit, abs_mul]
  exact mul_lt_of_lt_one_right (abs_pos.2 hb) h

/-- **A quotient cut off toward zero** is off by less than one. -/
theorem isRemainder_truncated [FloorRing K] (a : K) (hb : b ≠ 0) :
    IsRemainder a b (a - b * (if 0 ≤ a / b then (⌊a / b⌋ : K) else (⌈a / b⌉ : K))) := by
  split
  · refine isRemainder_of_abs_lt_one hb (abs_lt.2 ⟨?_, ?_⟩)
    · linarith [Int.floor_le (a / b)]
    · linarith [Int.lt_floor_add_one (a / b)]
  · refine isRemainder_of_abs_lt_one hb (abs_lt.2 ⟨?_, ?_⟩)
    · linarith [Int.ceil_lt_add_one (a / b)]
    · linarith [Int.le_ceil (a / b)]

end Field

namespace Binary64

/-- The number that a sign, a mantissa and a power of two stand for. -/
def number (negative : Bool) (mantissa : ℕ) (exponent : ℤ) : ℚ :=
  (if negative then -1 else 1) * (mantissa * 2 ^ exponent)

/-- The same number counted in a smaller power of two. -/
theorem number_eq_of_le (negative : Bool) (mantissa : ℕ) {unit exponent : ℤ}
    (h : unit ≤ exponent) :
    number negative mantissa exponent
      = number negative (mantissa * Nat.pow 2 (exponent - unit).toNat) unit := by
  have hpower : (2 : ℚ) ^ exponent = 2 ^ (exponent - unit).toNat * 2 ^ unit := by
    rw [← zpow_natCast, ← zpow_add₀ two_ne_zero, Int.toNat_of_nonneg (sub_nonneg.2 h),
      sub_add_cancel]
  simp only [number, hpower]
  push_cast [Nat.pow_eq]
  ring

@[simp] theorem abs_number (negative : Bool) (mantissa : ℕ) (exponent : ℤ) :
    |number negative mantissa exponent| = mantissa * 2 ^ exponent := by
  have hmagnitude : (0 : ℚ) ≤ mantissa * 2 ^ exponent := by positivity
  cases negative <;> simp [number, abs_of_nonneg hmagnitude]

/-- **Counts of one unit** leave the remainder of the counts, with the sign of the dividend. -/
theorem isRemainder_number (negative negative' : Bool) (m : ℕ) {n : ℕ} (hn : n ≠ 0) (unit : ℤ) :
    IsRemainder (number negative m unit) (number negative' n unit)
      (number negative (m % n) unit) where
  multiple := by
    have hm : (m : ℚ) = (m % n : ℕ) + n * (m / n : ℕ) := by
      exact_mod_cast (Nat.mod_add_div m n).symm
    generalize m / n = quotient at hm
    refine ⟨if negative = negative' then quotient else -quotient, ?_⟩
    simp only [number, hm]
    cases negative <;> cases negative' <;> simp <;> ring
  short := by
    rw [abs_number, abs_number]
    have hlt : ((m % n : ℕ) : ℚ) < n := by exact_mod_cast Nat.mod_lt m (Nat.pos_of_ne_zero hn)
    gcongr

/-- The mantissa of a double has 53 bits. -/
theorem mantissa_lt_of_ofFloat {x : Float} {negative : Bool} {mantissa : ℕ} {exponent : ℤ}
    (h : ofFloat x = .finite negative mantissa exponent) : mantissa < 2 * hiddenBit := by
  have hfraction : x.toBits.toNat % hiddenBit < hiddenBit := Nat.mod_lt _ (by decide)
  simp only [ofFloat] at h
  split_ifs at h
  · obtain ⟨-, rfl, -⟩ := Binary64.finite.inj h
    omega
  · obtain ⟨-, rfl, -⟩ := Binary64.finite.inj h
    omega

/-- **The remainder of two doubles is exact**: it is put together of a sign, a mantissa and a power
of two that stand for what the division of the two numbers leaves, and the mantissa has 53 bits. -/
theorem rem_of_finite {x y : Float} {negative negative' : Bool} {m n : ℕ} {e f : ℤ}
    (hx : ofFloat x = .finite negative m e) (hy : ofFloat y = .finite negative' n f) (hn : n ≠ 0) :
    ∃ (left : ℕ) (unit : ℤ), rem x y = toFloat negative left unit ∧ left < 2 * hiddenBit
      ∧ IsRemainder (number negative m e) (number negative' n f) (number negative left unit) := by
  have hrem : rem x y = toFloat negative
      (m * Nat.pow 2 (e - min e f).toNat % (n * Nat.pow 2 (f - min e f).toNat)) (min e f) := by
    simp only [rem, hx, hy, if_neg hn]
  have hpos (k : ℕ) : 0 < n * Nat.pow 2 k :=
    Nat.mul_pos (Nat.pos_of_ne_zero hn) (Nat.pow_pos two_pos)
  refine ⟨_, _, hrem, ?_, ?_⟩
  · -- one of the two is counted in its own power of two
    rcases le_total e f with hle | hle
    · rw [min_eq_left hle, sub_self]
      exact (Nat.mod_le _ _).trans_lt (by simpa using mantissa_lt_of_ofFloat hx)
    · rw [min_eq_right hle, sub_self]
      exact (Nat.mod_lt _ (hpos _)).trans (by simpa using mantissa_lt_of_ofFloat hy)
  · rw [number_eq_of_le negative m (min_le_left e f),
      number_eq_of_le negative' n (min_le_right e f)]
    exact isRemainder_number negative negative' _ (hpos _).ne' _

end Binary64

end DriveDecision
