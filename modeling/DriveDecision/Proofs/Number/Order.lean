import DriveDecision.Number.Double
import Mathlib.Data.Prod.Lex
import Mathlib.Order.Compare

/-!
# Proofs/Number/Order — how numbers compare

    doubles ──sign, exponent, mantissa──▸ `OrderedScalar` ──on numbers──▸ a linear preorder

Comparing is linear on numbers and fails on what is no number (`OrderedScalar`).  It need not tell
all numbers apart: there are two zeros.  The numbers alone (`Scalar.Number`) are a linear preorder,
where what follows from some comparisons can be decided.
-/

namespace DriveDecision

namespace Scalar

variable {α : Type} [Scalar α]

/-- A scalar is a number if it compares with itself. -/
def IsNumber (a : α) : Prop := a ≤ a

instance (a : α) : Decidable (IsNumber a) := inferInstanceAs (Decidable (a ≤ a))

variable (α) in
/-- The numbers of a scalar type. -/
abbrev Number : Type := {a : α // IsNumber a}

end Scalar

/-- **Numbers compare linearly**, and what compares is a number. -/
class OrderedScalar (α : Type) [Scalar α] : Prop where
  isNumber_zero : Scalar.IsNumber (0 : α)
  isNumber_of_le {a b : α} : a ≤ b → Scalar.IsNumber a ∧ Scalar.IsNumber b
  le_trans {a b c : α} : a ≤ b → b ≤ c → a ≤ c
  le_total {a b : α} : Scalar.IsNumber a → Scalar.IsNumber b → a ≤ b ∨ b ≤ a
  lt_iff {a b : α} : a < b ↔ a ≤ b ∧ ¬ b ≤ a

namespace Scalar

variable {α : Type} [Scalar α] [OrderedScalar α]

instance : Std.IsLinearPreorder (Number α) where
  le_refl a := a.2
  le_trans _ _ _ := OrderedScalar.le_trans
  le_total a b := OrderedScalar.le_total a.2 b.2

instance : Std.LawfulOrderLT (Number α) where
  lt_iff _ _ := OrderedScalar.lt_iff

instance : Zero (Number α) := ⟨⟨0, OrderedScalar.isNumber_zero⟩⟩

@[simp, norm_cast] theorem Number.coe_zero : ((0 : Number α) : α) = 0 := rfl

theorem not_lt_of_le {a b : α} (h : a ≤ b) : ¬ b < a := fun hlt => (OrderedScalar.lt_iff.1 hlt).2 h

theorem le_of_lt {a b : α} (h : a < b) : a ≤ b := (OrderedScalar.lt_iff.1 h).1

theorem not_lt_of_lt {a b : α} (h : a < b) : ¬ b < a := not_lt_of_le (le_of_lt h)

theorem lt_of_le_of_lt {a b c : α} (hab : a ≤ b) (hbc : b < c) : a < c :=
  OrderedScalar.lt_iff.2 ⟨OrderedScalar.le_trans hab (le_of_lt hbc),
    fun hca => not_lt_of_le (OrderedScalar.le_trans hca hab) hbc⟩

theorem lt_of_lt_of_le {a b c : α} (hab : a < b) (hbc : b ≤ c) : a < c :=
  OrderedScalar.lt_iff.2 ⟨OrderedScalar.le_trans (le_of_lt hab) hbc,
    fun hca => not_lt_of_le (OrderedScalar.le_trans hbc hca) hab⟩

theorem IsNumber.not_lt_iff {a b : α} (ha : IsNumber a) (hb : IsNumber b) : ¬ a < b ↔ b ≤ a := by
  rw [OrderedScalar.lt_iff, not_and_not_right]
  exact ⟨fun h => (OrderedScalar.le_total ha hb).elim h id, fun h _ => h⟩

end Scalar

/-! ## Doubles

Doubles are compared by sign, then by exponent and mantissa, those the other way round below zero.
Together the three are a double's rank. -/

namespace Double

open Float.Model

theorem compare_neg (a b : ℤ) : compare (-a) (-b) = (compare a b).swap := by
  rcases lt_trichotomy a b with h | rfl | h
  · rw [compare_lt_iff_lt.2 h, compare_gt_iff_gt.2 (Int.neg_lt_neg h)]
    rfl
  · simp
  · rw [compare_gt_iff_gt.2 h, compare_lt_iff_lt.2 (Int.neg_lt_neg h)]
    rfl

theorem compare_natCast (m n : ℕ) : compare (m : ℤ) (n : ℤ) = compare m n := by
  rcases lt_trichotomy m n with h | rfl | h
  · rw [compare_lt_iff_lt.2 h, compare_lt_iff_lt.2 (Int.ofNat_lt.2 h)]
  · simp
  · rw [compare_gt_iff_gt.2 h, compare_gt_iff_gt.2 (Int.ofNat_lt.2 h)]

/-- **The rank of a double's parts** among all others.  Nothing depends on the rank of NaN. -/
def rankOf : UnpackedFloat → ℤ ×ₗ ℤ ×ₗ ℤ
  | .infinity .negative => toLex (-2, toLex (0, 0))
  | .finite .negative mantissa exponent _ => toLex (-1, toLex (-exponent, -(mantissa : ℤ)))
  | .zero _ | .notANumber => toLex (0, toLex (0, 0))
  | .finite .positive mantissa exponent _ => toLex (1, toLex (exponent, (mantissa : ℤ)))
  | .infinity .positive => toLex (2, toLex (0, 0))

/-- Ranks of the same sign compare by exponent, and then by mantissa. -/
theorem compare_of_sign (sign e f m n : ℤ) :
    compare (toLex (sign, toLex (e, m))) (toLex (sign, toLex (f, n)))
      = (compare e f).then (compare m n) := by
  simp [Prod.Lex.compare_def, compareLex, compareOn]

theorem compare_eq_compare_rankOf {u v : UnpackedFloat} (hu : u ≠ .notANumber)
    (hv : v ≠ .notANumber) : u.compare v = some (compare (rankOf u) (rankOf v)) := by
  rcases u with (_ | _) | _ | _ | ⟨_ | _, m, e, _⟩ <;>
    rcases v with (_ | _) | _ | _ | ⟨_ | _, n, f, _⟩ <;>
    try first
      | exact absurd rfl hu
      | exact absurd rfl hv
      | rfl
  -- left are the two pairs of the same sign, positive and negative
  case finite.positive.finite.positive =>
    have hranks := compare_of_sign 1 e f m n
    rw [compare_natCast] at hranks
    exact congrArg some hranks.symm
  case finite.negative.finite.negative =>
    have hranks := compare_of_sign (-1) (-e) (-f) (-m) (-n)
    rw [compare_neg, compare_neg, compare_natCast, ← Ordering.swap_then] at hranks
    exact congrArg some hranks.symm

theorem compare_eq_none {u v : UnpackedFloat} (h : u = .notANumber ∨ v = .notANumber) :
    u.compare v = none := by
  rcases h with rfl | rfl
  · rfl
  · rcases u with (_ | _) | _ | _ | ⟨_ | _, _, _, _⟩ <;> rfl

/-- The rank of a double. -/
def rank (x : Float) : ℤ ×ₗ ℤ ×ₗ ℤ := rankOf x.toModel.unpack

theorem isNaN_iff {x : Float} : x.isNaN = true ↔ x.toModel.unpack = .notANumber := by
  change x.toModel.unpack.isNaN = true ↔ _
  cases x.toModel.unpack with
  | notANumber => exact iff_of_true rfl rfl
  | infinity _ | zero _ | finite _ _ _ _ => exact iff_of_false Bool.false_ne_true nofun

theorem compare_unpack (x y : Float) : x.toModel.unpack.compare y.toModel.unpack
    = if x.isNaN = true ∨ y.isNaN = true then none else some (compare (rank x) (rank y)) := by
  split_ifs with h
  · exact compare_eq_none (h.imp isNaN_iff.1 isNaN_iff.1)
  · rw [not_or, isNaN_iff, isNaN_iff] at h
    exact compare_eq_compare_rankOf h.1 h.2

/-- **Two doubles compare as their ranks do**, unless one is no number. -/
theorem le_iff {x y : Float} :
    x ≤ y ↔ x.isNaN = false ∧ y.isNaN = false ∧ rank x ≤ rank y := by
  have hle : x ≤ y ↔ x.toModel.unpack.le y.toModel.unpack = true := decide_eq_true_iff
  have hrank := Ordering.isLE_iff_ne_gt.trans (compare_le_iff_le (a := rank x) (b := rank y))
  rw [hle, UnpackedFloat.le, compare_unpack, ← hrank]
  cases x.isNaN <;> cases y.isNaN <;> simp

theorem lt_iff {x y : Float} :
    x < y ↔ x.isNaN = false ∧ y.isNaN = false ∧ rank x < rank y := by
  have hlt : x < y ↔ x.toModel.unpack.lt y.toModel.unpack = true := decide_eq_true_iff
  rw [hlt, UnpackedFloat.lt, compare_unpack, ← compare_lt_iff_lt]
  cases x.isNaN <;> cases y.isNaN <;> simp

/-- A double is a number unless it is NaN. -/
theorem isNumber_iff {x : Float} : Scalar.IsNumber x ↔ x.isNaN = false := by
  change x ≤ x ↔ _
  simp [le_iff]

end Double

/-- **Doubles are ordered.** -/
instance : OrderedScalar Float where
  isNumber_zero := Double.isNumber_iff.2 (by decide)
  isNumber_of_le h := by
    obtain ⟨ha, hb, -⟩ := Double.le_iff.1 h
    exact ⟨Double.isNumber_iff.2 ha, Double.isNumber_iff.2 hb⟩
  le_trans hab hbc := by
    obtain ⟨ha, -, hab⟩ := Double.le_iff.1 hab
    obtain ⟨-, hc, hbc⟩ := Double.le_iff.1 hbc
    exact Double.le_iff.2 ⟨ha, hc, hab.trans hbc⟩
  le_total {a b} ha hb := by
    rw [Double.isNumber_iff] at ha hb
    rw [Double.le_iff, Double.le_iff]
    exact (le_total (Double.rank a) (Double.rank b)).imp (⟨ha, hb, ·⟩) (⟨hb, ha, ·⟩)
  lt_iff {a b} := by
    rw [Double.lt_iff, Double.le_iff, Double.le_iff, lt_iff_le_not_ge]
    tauto

end DriveDecision
