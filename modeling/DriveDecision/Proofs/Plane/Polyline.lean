import Mathlib.Algebra.Order.Field.Basic
import DriveDecision.Proofs.Number.Measuring
import DriveDecision.Proofs.Plane.Segments

/-!
# Proofs/Plane/Polyline — where a walk along a broken line lands

    vertices   p₀ ───×── p₁ ── p₂ ═ p₃ ─── p₄
    walked     0     s                     L

Without rounding, the point at an arc length lies on the line (`Polyline.through_of_at?`), and at
the length of the whole line that is its last vertex (`Polyline.at?_length`).  An edge too short to
have a direction is never landed on: it must have no length at all (`Polyline.IsResolved`), and then
passing it over is no step ahead.
-/

namespace DriveDecision

/-- The pairs of a list with one more element are one more pair. -/
theorem consecutive_concat {β : Type} (bs : List β) (b c : β) :
    consecutive (bs ++ [b, c]) = consecutive (bs ++ [b]) ++ [(b, c)] := by
  induction bs with
  | nil => rfl
  | cons a bs ih =>
    cases bs with
    | nil => rfl
    | cons d bs => exact congrArg ((a, d) :: ·) ih

namespace Polyline

variable {α : Type} [ExactScalar α]

/-- **The edges are told apart from nothing**: each has a length above the least that counts, or
none at all. -/
def IsResolved (line : List (Point α)) : Prop :=
  ∀ edge ∈ consecutive line, edge.1.distance edge.2 = 0 ∨ Scalar.epsilon < edge.1.distance edge.2

instance (line : List (Point α)) : Decidable (IsResolved line) :=
  inferInstanceAs (Decidable (∀ edge ∈ consecutive line,
    edge.1.distance edge.2 = 0 ∨ Scalar.epsilon < edge.1.distance edge.2))

variable {a b here next p : Point α} {rest line : List (Point α)} {s behind : α}

theorem Through.cons (h : Through line p) : Through (here :: line) p := by
  obtain ⟨edge, hedge, hthrough⟩ := h
  cases line with
  | nil => cases hedge
  | cons next rest => exact ⟨edge, List.mem_cons_of_mem _ hedge, hthrough⟩

theorem isResolved_cons_cons : IsResolved (here :: next :: rest)
    ↔ (here.distance next = 0 ∨ Scalar.epsilon < here.distance next)
      ∧ IsResolved (next :: rest) := List.forall_mem_cons

@[simp] theorem length_singleton (p : Point α) : length [p] = 0 := rfl

theorem length_cons_cons (here next : Point α) (rest : List (Point α)) :
    length (here :: next :: rest) = here.distance next + length (next :: rest) := by
  rw [length, length, Scalar.sum_eq, Scalar.sum_eq]
  exact List.sum_cons

variable [MeasuringScalar α]

/-! ## Lengths -/

theorem distance_nonneg (h : a.distance b = 0 ∨ Scalar.epsilon < a.distance b) :
    0 ≤ a.distance b := Scalar.nonneg_of_resolved MeasuringScalar.epsilon_nonneg h

theorem length_nonneg (hresolved : IsResolved (here :: rest)) : 0 ≤ length (here :: rest) := by
  induction rest generalizing here with
  | nil => exact le_rfl
  | cons next rest ih =>
    obtain ⟨hedge, hrest⟩ := isResolved_cons_cons.1 hresolved
    rw [length_cons_cons]
    exact add_nonneg (distance_nonneg hedge) (ih hrest)

/-- **A line of no length ends where it begins.** -/
theorem getLast?_of_length_eq_zero (hresolved : IsResolved (here :: rest))
    (hlength : length (here :: rest) = 0) : (here :: rest).getLast? = some here := by
  induction rest generalizing here with
  | nil => rfl
  | cons next rest ih =>
    obtain ⟨hedge, hrest⟩ := isResolved_cons_cons.1 hresolved
    rw [length_cons_cons,
      add_eq_zero_iff_of_nonneg (distance_nonneg hedge) (length_nonneg hrest)] at hlength
    rw [Point.eq_of_distance_eq_zero hlength.1, List.getLast?_cons_cons]
    exact ih hrest hlength.2

/-! ## The walk -/

/-- **The walk stays on the line.** -/
theorem mem_or_through_walk (hresolved : IsResolved (here :: rest)) (hbehind : behind < s) :
    walk s behind here rest ∈ here :: rest ∨ Through (here :: rest) (walk s behind here rest) := by
  induction rest generalizing here behind with
  | nil => exact .inl List.mem_cons_self
  | cons next rest ih =>
    obtain ⟨hedge, hrest⟩ := isResolved_cons_cons.1 hresolved
    rw [walk]
    split_ifs with hlands
    · have hpos : 0 < here.distance next := MeasuringScalar.epsilon_nonneg.trans_lt hlands.2
      obtain ⟨h0, h1⟩ := Scalar.fraction_of_landed hpos hbehind hlands.1
      exact .inr ⟨(here, next), List.mem_cons_self, _, h0.le, h1, rfl⟩
    · have hpast := Scalar.add_lt_of_passed hedge hbehind hlands
      exact (ih hrest hpast).imp (List.mem_cons_of_mem _) .cons

/-- **The walk of the whole length ends at the last vertex**: whatever follows the edge landed on
has no length. -/
theorem walk_length (hresolved : IsResolved (here :: rest))
    (hs : s = behind + length (here :: rest)) :
    some (walk s behind here rest) = (here :: rest).getLast? := by
  induction rest generalizing here behind with
  | nil => rfl
  | cons next rest ih =>
    obtain ⟨-, hrest⟩ := isResolved_cons_cons.1 hresolved
    rw [length_cons_cons, ← add_assoc] at hs
    rw [walk, List.getLast?_cons_cons]
    split_ifs with hlands
    · have hpos : 0 < here.distance next := MeasuringScalar.epsilon_nonneg.trans_lt hlands.2
      have hnone : length (next :: rest) = 0 :=
        (nonpos_of_add_le_right (hs ▸ hlands.1)).antisymm (length_nonneg hrest)
      rw [hs, hnone, add_zero, add_sub_cancel_left, div_self hpos.ne', Point.lerp_one,
        getLast?_of_length_eq_zero hrest hnone]
    · exact ih hrest hs

/-- **The points at arc lengths are points of the line.** -/
theorem through_of_at? (hresolved : IsResolved line) (hline : line.length ≠ 1)
    (h : at? line s = some p) : Through line p := by
  cases line with
  | nil => cases h
  | cons first rest =>
    rw [at?] at h
    split_ifs at h with hs
    · exact through_of_mem hline (List.mem_cons.2 (.inl (Option.some.inj h).symm))
    · rw [← Option.some.inj h]
      exact (mem_or_through_walk hresolved (not_le.1 hs)).elim (through_of_mem hline) id

/-- **At its whole length a line ends.** -/
theorem at?_length (hresolved : IsResolved line) : at? line (length line) = line.getLast? := by
  cases line with
  | nil => rfl
  | cons first rest =>
    rw [at?]
    split_ifs with hs
    · exact (getLast?_of_length_eq_zero hresolved (hs.antisymm (length_nonneg hresolved))).symm
    · exact walk_length hresolved (zero_add _).symm

end Polyline

end DriveDecision
