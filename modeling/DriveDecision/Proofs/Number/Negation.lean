import Mathlib
import DriveDecision.Proofs.Number.Exact

/-!
# Proofs/Number/Negation — numbers on both sides of zero

    ── -b ──── -a ──── 0 ──── a ──── b ──▸        a ≤ b ↔ -b ≤ -a

Negation turns the order of numbers around and leaves zero where it is (`SignedScalar`).  A double
is negated by its sign alone, and its rank among the others becomes the opposite one (`rank_neg`).
How a magnitude compares is then said without telling signs apart (`IsNumber.abs_lt_iff`).

How doubles are packed and unpacked is the library's (`pack_unpack_of_valid`).  Its lemmas are in no
part of Mathlib: they come with the whole of it alone.
-/

namespace DriveDecision

/-! ## Doubles -/

namespace Double

open Float.Model (Format UnpackedFloat)
open Float.Model.UnpackedFloat

/-- Bits that differ in the sign stand for opposite numbers. -/
theorem unpack_packComponents_neg {spec : Format} (s : Sign) (e : BitVec spec.exponentBits)
    (m : BitVec spec.mantissaBitsWithoutImplicit) :
    unpack spec (packComponents spec (-s) e m)
      = (unpack spec (packComponents spec s e m)).neg := by
  simp only [unpack, unpackMantissa_packComponents, unpackExponent_packComponents,
    unpackSign_packComponents, Sign.ofBitVec_toBitVec]
  split_ifs <;> rfl

/-- Opposite numbers are packed into bits that differ in the sign. -/
theorem exists_packComponents {spec : Format} {u : UnpackedFloat} (h : u ≠ .notANumber) :
    ∃ s e m, pack spec u = packComponents spec s e m
      ∧ pack spec u.neg = packComponents spec (-s) e m := by
  cases u with
  | notANumber => exact absurd rfl h
  | infinity s => exact ⟨s, _, _, rfl, rfl⟩
  | zero s => exact ⟨s, _, _, rfl, rfl⟩
  | finite s m e hm =>
    simp only [UnpackedFloat.neg, pack]
    split_ifs
    · exact ⟨s, _, _, rfl, rfl⟩
    · exact ⟨s, _, _, rfl, rfl⟩
    · exact ⟨s, _, _, rfl, rfl⟩

/-- A double is packed from what it stands for. -/
theorem ofModel_pack_unpack (x : Float) : Float.ofModel (.pack x.toModel.unpack) = x := by
  obtain ⟨⟨⟨bits⟩, hvalid⟩⟩ := x
  simp only [Float.Model.pack, Float.Model.unpack, pack_unpack_of_valid hvalid]

/-- **A double is negated by its sign alone.** -/
theorem unpack_neg (x : Float) : (-x).toModel.unpack = x.toModel.unpack.neg := by
  have hpack : pack .binary64 x.toModel.unpack = x.toModel.toBits.toBitVec :=
    pack_unpack_of_valid x.toModel.valid
  change unpack .binary64 (pack .binary64 x.toModel.unpack.neg) = _
  by_cases h : x.toModel.unpack = .notANumber
  · rw [h]
    exact unpack_packedNaN
  · obtain ⟨s, e, m, hbits, hneg⟩ := exists_packComponents h
    rw [hneg, unpack_packComponents_neg, ← hbits, hpack]
    rfl

/-- Negating twice changes nothing. -/
theorem neg_involutive : Function.Involutive (Neg.neg : Float → Float) := by
  intro x
  have hneg : (x.toModel.unpack.neg).neg = x.toModel.unpack := by
    rcases x.toModel.unpack with (_ | _) | _ | (_ | _) | ⟨_ | _, _, _, _⟩ <;> rfl
  have htwice : -(-x) = Float.ofModel (.pack (-x).toModel.unpack.neg) := rfl
  rw [htwice, unpack_neg, hneg, ofModel_pack_unpack]

theorem rankOf_neg (u : UnpackedFloat) : rankOf u.neg = -rankOf u := by
  rcases u with (_ | _) | _ | _ | ⟨_ | _, m, e, _⟩
  case finite.negative =>
    change toLex (1, toLex (e, (m : ℤ))) = toLex (1, toLex (- -e, - -(m : ℤ)))
    rw [neg_neg, neg_neg]
  all_goals rfl

/-- **The rank of the opposite double** is the opposite rank. -/
theorem rank_neg (x : Float) : rank (-x) = -rank x := by
  rw [rank, unpack_neg, rankOf_neg, rank]

theorem isNaN_neg (x : Float) : (-x).isNaN = x.isNaN := by
  rw [Bool.eq_iff_iff, isNaN_iff, isNaN_iff, unpack_neg]
  cases x.toModel.unpack <;> simp [UnpackedFloat.neg]

end Double

/-! ## Numbers -/

/-- **Negation turns the order around zero.** -/
class SignedScalar (α : Type) [Scalar α] : Prop extends OrderedScalar α where
  neg_neg (a : α) : -(-a) = a
  neg_le_neg_iff {a b : α} : -a ≤ -b ↔ b ≤ a
  neg_zero_le : -(0 : α) ≤ 0
  le_neg_zero : (0 : α) ≤ -0

instance : SignedScalar Float where
  neg_neg := Double.neg_involutive
  neg_le_neg_iff := by
    intro a b
    rw [Double.le_iff, Double.le_iff, Double.isNaN_neg, Double.isNaN_neg, Double.rank_neg,
      Double.rank_neg, neg_le_neg_iff, and_left_comm]
  neg_zero_le := by decide
  le_neg_zero := by decide

instance {α : Type} [ExactScalar α] : SignedScalar α where
  neg_neg := neg_neg
  neg_le_neg_iff := neg_le_neg_iff
  neg_zero_le := neg_zero.le
  le_neg_zero := neg_zero.ge

namespace Scalar

variable {α : Type} [Scalar α] [SignedScalar α]

theorem neg_lt_neg_iff {a b : α} : -a < -b ↔ b < a := by
  rw [OrderedScalar.lt_iff, OrderedScalar.lt_iff, SignedScalar.neg_le_neg_iff,
    SignedScalar.neg_le_neg_iff]

theorem lt_neg_iff {a b : α} : a < -b ↔ b < -a := by
  rw [← neg_lt_neg_iff, SignedScalar.neg_neg]

theorem IsNumber.neg {a : α} (h : IsNumber a) : IsNumber (-a) := SignedScalar.neg_le_neg_iff.2 h

/-- What is below zero has its opposite above… -/
theorem zero_lt_neg_iff {a : α} : 0 < -a ↔ a < 0 := by
  rw [lt_neg_iff]
  exact ⟨fun h => lt_of_lt_of_le h SignedScalar.neg_zero_le,
    fun h => lt_of_lt_of_le h SignedScalar.le_neg_zero⟩

/-- …and conversely. -/
theorem neg_lt_zero_iff {a : α} : -a < 0 ↔ 0 < a := by
  rw [← zero_lt_neg_iff, SignedScalar.neg_neg]

theorem neg_le_self {a : α} (h : 0 ≤ a) : -a ≤ a :=
  OrderedScalar.le_trans (SignedScalar.neg_le_neg_iff.2 h)
    (OrderedScalar.le_trans SignedScalar.neg_zero_le h)

theorem le_neg_self {a : α} (h : a < 0) : a ≤ -a :=
  OrderedScalar.le_trans (le_of_lt h) (le_of_lt (zero_lt_neg_iff.2 h))

/-- **A magnitude is below a bound** when the number and its opposite are… -/
theorem IsNumber.abs_lt_iff {a b : α} (h : IsNumber a) : abs a < b ↔ a < b ∧ -a < b := by
  unfold abs
  split_ifs with hneg
  · exact ⟨fun hlt => ⟨lt_of_le_of_lt (le_neg_self hneg) hlt, hlt⟩, And.right⟩
  · have hpos : 0 ≤ a := (h.not_lt_iff OrderedScalar.isNumber_zero).1 hneg
    exact ⟨fun hlt => ⟨hlt, lt_of_le_of_lt (neg_le_self hpos) hlt⟩, And.left⟩

/-- …and above a bound when one of the two is. -/
theorem IsNumber.lt_abs_iff {a b : α} (h : IsNumber a) : b < abs a ↔ b < a ∨ b < -a := by
  unfold abs
  split_ifs with hneg
  · exact ⟨Or.inr, fun hlt => hlt.elim (lt_of_lt_of_le · (le_neg_self hneg)) id⟩
  · have hpos : 0 ≤ a := (h.not_lt_iff OrderedScalar.isNumber_zero).1 hneg
    exact ⟨Or.inl, fun hlt => hlt.elim id (lt_of_lt_of_le · (neg_le_self hpos))⟩

/-- A number and its opposite have the same magnitude. -/
theorem IsNumber.abs_neg_lt_iff {a b : α} (h : IsNumber a) : abs (-a) < b ↔ abs a < b := by
  rw [h.neg.abs_lt_iff, h.abs_lt_iff, SignedScalar.neg_neg, and_comm]

theorem IsNumber.lt_abs_neg_iff {a b : α} (h : IsNumber a) : b < abs (-a) ↔ b < abs a := by
  rw [h.neg.lt_abs_iff, h.lt_abs_iff, SignedScalar.neg_neg, or_comm]

end Scalar

end DriveDecision
