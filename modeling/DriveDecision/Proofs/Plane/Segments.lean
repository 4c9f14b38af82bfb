import Mathlib.Analysis.Convex.Segment
import Mathlib.Tactic.FieldSimp
import Mathlib.Tactic.LinearCombination
import DriveDecision.Plane.Polygon
import DriveDecision.Proofs.Number.Exact

/-!
# Proofs/Plane/Segments — two segments meet where they have a common point

              a₂
             ╱
    b₁ ─────p───── b₂        `meets a₁ a₂ b₁ b₂  ↔  ∃ p, Through a₁ a₂ p ∧ Through b₁ b₂ p`
           ╱
          a₁

The test looks at signs and boxes only; the common point is what these are about.  Without rounding
the side of a point is affine in the point (`side_lerp`), so a point of both segments puts the ends
of each on different sides of the other, unless it is an end itself or everything lies on one line;
and where both pairs of ends are on different sides, the sides say how far along to go.
-/

namespace DriveDecision

attribute [ext] Point

/-! ## Coordinates -/

namespace Point

variable {α : Type} [ExactScalar α]

@[simp] theorem sub_x (p q : Point α) : (p - q).x = p.x - q.x := rfl

@[simp] theorem sub_y (p q : Point α) : (p - q).y = p.y - q.y := rfl

@[simp] theorem lerp_x (p q : Point α) (t : α) : (p.lerp q t).x = p.x * (1 - t) + q.x * t := rfl

@[simp] theorem lerp_y (p q : Point α) (t : α) : (p.lerp q t).y = p.y * (1 - t) + q.y * t := rfl

@[simp] theorem lerp_zero (p q : Point α) : p.lerp q 0 = p := by ext <;> simp

@[simp] theorem lerp_one (p q : Point α) : p.lerp q 1 = q := by ext <;> simp

/-- Between two points of a segment there are only points of that segment. -/
theorem lerp_lerp (p q : Point α) (s t u : α) :
    (p.lerp q s).lerp (p.lerp q t) u = p.lerp q (s * (1 - u) + t * u) := by
  ext <;> simp only [lerp_x, lerp_y] <;> ring

omit [ExactScalar α] in
/-- The coordinates of a point, as a vector. -/
def coords (p : Point α) : α × α := (p.x, p.y)

omit [ExactScalar α] in
/-- One of the two coordinates tells different points apart. -/
theorem x_ne_or_y_ne {p q : Point α} (hne : p ≠ q) : p.x ≠ q.x ∨ p.y ≠ q.y := by
  by_contra h
  rw [not_or, not_not, not_not] at h
  exact hne (Point.ext h.1 h.2)

end Point

/-! ## Mixing two scalars -/

namespace Scalar

variable {α : Type} [ExactScalar α]

theorem mix_nonneg {x y t : α} (hx : 0 ≤ x) (hy : 0 ≤ y) (h0 : 0 ≤ t) (h1 : t ≤ 1) :
    0 ≤ x * (1 - t) + y * t :=
  add_nonneg (mul_nonneg hx (sub_nonneg.2 h1)) (mul_nonneg hy h0)

/-- Different fractions of different scalars are different mixtures. -/
theorem mix_injective {x y s t : α} (hne : x ≠ y)
    (h : x * (1 - s) + y * s = x * (1 - t) + y * t) : s = t := by
  have hd : y - x ≠ 0 := sub_ne_zero.2 hne.symm
  exact mul_left_cancel₀ hd (by linear_combination h)

/-- **What is mixed to zero has different signs**, or only one of the two was taken. -/
theorem opposite_of_mix_eq_zero {x y t : α} (h0 : 0 < t) (h1 : t < 1) (hne : x ≠ y)
    (h : x * (1 - t) + y * t = 0) : (0 < x ∧ y < 0) ∨ (x < 0 ∧ 0 < y) := by
  have h1' : 0 < 1 - t := sub_pos.2 h1
  rcases lt_trichotomy x 0 with hx | rfl | hx
  · exact .inr ⟨hx, pos_of_mul_pos_left (by linarith [mul_neg_of_neg_of_pos hx h1']) h0.le⟩
  · have hy : y * t = 0 := by linear_combination h
    exact absurd ((mul_eq_zero.1 hy).resolve_right h0.ne').symm hne
  · exact .inl ⟨hx, neg_of_mul_neg_left (by linarith [mul_pos hx h1']) h0.le⟩

/-- Between different signs, `x / (x - y)` is the fraction… -/
theorem zero_crossing {x y : α} (h : (0 < x ∧ y ≤ 0) ∨ (x ≤ 0 ∧ 0 < y)) :
    x - y ≠ 0 ∧ 0 ≤ x / (x - y) ∧ x / (x - y) ≤ 1 := by
  rcases h with ⟨hx, hy⟩ | ⟨hx, hy⟩
  · have hd : 0 < x - y := by linarith
    exact ⟨hd.ne', div_nonneg hx.le hd.le, (div_le_one hd).2 (by linarith)⟩
  · have hd : x - y < 0 := by linarith
    exact ⟨hd.ne, div_nonneg_of_nonpos hx hd.le, (div_le_one_of_neg hd).2 (by linarith)⟩

/-- …that mixes the two to zero. -/
theorem mix_zero_crossing {x y : α} (hd : x - y ≠ 0) :
    x * (1 - x / (x - y)) + y * (x / (x - y)) = 0 := by
  field_simp
  ring

section

variable [LawfulBEq α]

theorem min_eq (x y : α) : Scalar.min x y = Min.min x y := by simp [Scalar.min, min_def]

theorem max_eq (x y : α) : Scalar.max x y = Max.max x y := by simp [Scalar.max, max_def']

end

/-- A mixture lies between the two. -/
theorem mix_mem_Icc {x y t : α} (h0 : 0 ≤ t) (h1 : t ≤ 1) :
    Min.min x y ≤ x * (1 - t) + y * t ∧ x * (1 - t) + y * t ≤ Max.max x y := by
  constructor
  · have hx := mul_nonneg (sub_nonneg.2 (min_le_left x y)) (sub_nonneg.2 h1)
    have hy := mul_nonneg (sub_nonneg.2 (min_le_right x y)) h0
    linear_combination hx + hy
  · have hx := mul_nonneg (sub_nonneg.2 (le_max_left x y)) (sub_nonneg.2 h1)
    have hy := mul_nonneg (sub_nonneg.2 (le_max_right x y)) h0
    linear_combination hx + hy

/-- …and whatever lies between two different ones is a mixture. -/
theorem fraction_of_mem_Icc {x y t : α} (hne : x ≠ y) (hmin : Min.min x y ≤ x * (1 - t) + y * t)
    (hmax : x * (1 - t) + y * t ≤ Max.max x y) : 0 ≤ t ∧ t ≤ 1 := by
  rcases hne.lt_or_gt with hlt | hlt
  · rw [min_eq_left hlt.le] at hmin
    rw [max_eq_right hlt.le] at hmax
    have hd : 0 < y - x := sub_pos.2 hlt
    exact ⟨nonneg_of_mul_nonneg_right (by linear_combination hmin) hd,
      le_of_mul_le_mul_left (by linear_combination hmax) hd⟩
  · rw [min_eq_right hlt.le] at hmin
    rw [max_eq_left hlt.le] at hmax
    have hd : 0 < x - y := sub_pos.2 hlt
    exact ⟨nonneg_of_mul_nonneg_right (by linear_combination hmax) hd,
      le_of_mul_le_mul_left (by linear_combination hmin) hd⟩

/-- Two that are not fractions but mix to one are on either side of the fractions. -/
theorem either_side_of_mix {x y t : α} (hx : ¬ (0 ≤ x ∧ x ≤ 1)) (hy : ¬ (0 ≤ y ∧ y ≤ 1))
    (h0 : 0 ≤ t) (h1 : t ≤ 1) (hmix0 : 0 ≤ x * (1 - t) + y * t)
    (hmix1 : x * (1 - t) + y * t ≤ 1) : (0 < x ∧ y ≤ 0) ∨ (x ≤ 0 ∧ 0 < y) := by
  obtain ⟨hmin, hmax⟩ := mix_mem_Icc (x := x) (y := y) h0 h1
  rcases min_le_iff.1 (hmin.trans hmix1) with hx1 | hy1
  · have hx0 : x < 0 := not_le.1 fun h => hx ⟨h, hx1⟩
    have hy0 : 0 ≤ y := (le_max_iff.1 (hmix0.trans hmax)).resolve_left (not_le.2 hx0)
    exact .inr ⟨hx0.le, hy0.lt_of_ne fun h => hy (h ▸ ⟨le_rfl, zero_le_one⟩)⟩
  · have hy0 : y < 0 := not_le.1 fun h => hy ⟨h, hy1⟩
    have hx0 : 0 ≤ x := (le_max_iff.1 (hmix0.trans hmax)).resolve_right (not_le.2 hy0)
    exact .inl ⟨hx0.lt_of_ne fun h => hx (h ▸ ⟨le_rfl, zero_le_one⟩), hy0.le⟩

end Scalar

/-! ## The points of a segment -/

namespace Segment

variable {α : Type} [ExactScalar α] {a b c p : Point α} {a₁ a₂ b₁ b₂ : Point α}

/-- **The closed segment from `a` to `b` goes through `p`.** -/
def Through (a b p : Point α) : Prop := ∃ t : α, 0 ≤ t ∧ t ≤ 1 ∧ a.lerp b t = p

theorem Through.left (a b : Point α) : Through a b a := ⟨0, le_rfl, zero_le_one, by simp⟩

theorem Through.right (a b : Point α) : Through a b b := ⟨1, zero_le_one, le_rfl, by simp⟩

/-- A point of a segment is one of its ends, or properly between them. -/
theorem Through.eq_or_between (h : Through a b p) :
    p = a ∨ p = b ∨ ∃ t, 0 < t ∧ t < 1 ∧ a.lerp b t = p := by
  obtain ⟨t, h0, h1, rfl⟩ := h
  rcases h0.eq_or_lt with rfl | h0
  · exact .inl (Point.lerp_zero a b)
  rcases h1.eq_or_lt with rfl | h1
  · exact .inr (.inl (Point.lerp_one a b))
  exact .inr (.inr ⟨t, h0, h1, rfl⟩)

/-- A segment holds all between two of its points. -/
theorem Through.trans {q : Point α} (hp : Through a b p) (hq : Through a b q)
    (hc : Through p q c) : Through a b c := by
  obtain ⟨s, hs0, hs1, rfl⟩ := hp
  obtain ⟨t, ht0, ht1, rfl⟩ := hq
  obtain ⟨u, hu0, hu1, rfl⟩ := hc
  refine ⟨s * (1 - u) + t * u, Scalar.mix_nonneg hs0 ht0 hu0 hu1, ?_, (Point.lerp_lerp ..).symm⟩
  have := Scalar.mix_nonneg (sub_nonneg.2 hs1) (sub_nonneg.2 ht1) hu0 hu1
  linear_combination this

/-- The points of a segment are the convex combinations of its ends. -/
theorem through_iff_mem_segment : Through a b p ↔ p.coords ∈ segment α a.coords b.coords := by
  rw [segment_eq_image]
  constructor
  · rintro ⟨t, h0, h1, rfl⟩
    exact ⟨t, ⟨h0, h1⟩, by ext <;> simp [Point.coords, mul_comm]⟩
  · rintro ⟨t, ⟨h0, h1⟩, ht⟩
    refine ⟨t, h0, h1, Point.ext ?_ ?_⟩
    · simpa [Point.coords, mul_comm] using congrArg Prod.fst ht
    · simpa [Point.coords, mul_comm] using congrArg Prod.snd ht

/-- Different fractions of the way between different points are different points. -/
theorem lerp_injective {s t : α} (hne : a ≠ b) (h : a.lerp b s = a.lerp b t) : s = t := by
  rcases Point.x_ne_or_y_ne hne with hx | hy
  · exact Scalar.mix_injective hx (congrArg Point.x h)
  · exact Scalar.mix_injective hy (congrArg Point.y h)

/-! ### Sides -/

theorem side_def (a b c : Point α) :
    side a b c = (b.x - a.x) * (c.y - a.y) - (b.y - a.y) * (c.x - a.x) := rfl

@[simp] theorem side_left (a b : Point α) : side a b a = 0 := by rw [side_def]; ring

@[simp] theorem side_right (a b : Point α) : side a b b = 0 := by rw [side_def]; ring

/-- **The side is affine in the point.** -/
theorem side_lerp (a b p q : Point α) (t : α) :
    side a b (p.lerp q t) = side a b p * (1 - t) + side a b q * t := by
  simp only [side_def, Point.lerp_x, Point.lerp_y]
  ring

/-- The ends of one segment are as far apart in side of the other as the other's are of the one. -/
theorem side_sub_side (a₁ a₂ b₁ b₂ : Point α) :
    side b₁ b₂ a₁ - side b₁ b₂ a₂ = side a₁ a₂ b₂ - side a₁ a₂ b₁ := by
  simp only [side_def]
  ring

theorem side_eq_zero_of_through (h : Through a b p) : side a b p = 0 := by
  obtain ⟨t, -, -, rfl⟩ := h
  simp [side_lerp]

/-- Ends with a point of a line between them mix to nothing in side. -/
theorem mix_side_eq_zero {t : α} (ht : a₁.lerp a₂ t = p) (hp : Through b₁ b₂ p) :
    side b₁ b₂ a₁ * (1 - t) + side b₁ b₂ a₂ * t = 0 := by
  rw [← side_lerp, ht, side_eq_zero_of_through hp]

/-- Between two points on the left there are only points on the left. -/
theorem side_nonneg_of_through {q : Point α} (hp : 0 ≤ side a b p) (hq : 0 ≤ side a b q)
    (hc : Through p q c) : 0 ≤ side a b c := by
  obtain ⟨t, h0, h1, rfl⟩ := hc
  rw [side_lerp]
  exact Scalar.mix_nonneg hp hq h0 h1

/-- A point on neither side of a line is reached by going along the line. -/
theorem exists_lerp_of_side_eq_zero (hne : a ≠ b) (h : side a b p = 0) :
    ∃ t, a.lerp b t = p := by
  rw [side_def] at h
  rcases Point.x_ne_or_y_ne hne with hx | hy
  · have hx' : b.x - a.x ≠ 0 := sub_ne_zero.2 hx.symm
    refine ⟨(p.x - a.x) / (b.x - a.x), Point.ext ?_ ?_⟩
    · rw [Point.lerp_x]
      field_simp
      ring
    · rw [Point.lerp_y]
      field_simp
      linear_combination -h
  · have hy' : b.y - a.y ≠ 0 := sub_ne_zero.2 hy.symm
    refine ⟨(p.y - a.y) / (b.y - a.y), Point.ext ?_ ?_⟩
    · rw [Point.lerp_x]
      field_simp
      linear_combination h
    · rw [Point.lerp_y]
      field_simp
      ring

/-! ## Two segments -/

theorem opposite_iff {s t : α} : opposite s t = true ↔ (0 < s ∧ t < 0) ∨ (s < 0 ∧ 0 < t) := by
  simp [opposite]

/-- **A proper crossing has a point**: as far along each segment as the sides of its ends say. -/
theorem exists_through_of_opposite
    (hs : opposite (side b₁ b₂ a₁) (side b₁ b₂ a₂) = true)
    (ht : opposite (side a₁ a₂ b₁) (side a₁ a₂ b₂) = true) :
    ∃ p, Through a₁ a₂ p ∧ Through b₁ b₂ p := by
  rw [opposite_iff] at hs ht
  obtain ⟨hD, hs0, hs1⟩ :=
    Scalar.zero_crossing (hs.imp (And.imp_right le_of_lt) (And.imp_left le_of_lt))
  obtain ⟨-, ht0, ht1⟩ :=
    Scalar.zero_crossing (ht.imp (And.imp_right le_of_lt) (And.imp_left le_of_lt))
  refine ⟨_, ⟨_, hs0, hs1, rfl⟩, _, ht0, ht1, ?_⟩
  have hD' : side a₁ a₂ b₁ - side a₁ a₂ b₂ = -(side b₁ b₂ a₁ - side b₁ b₂ a₂) := by
    rw [side_sub_side]
    ring
  rw [hD']
  ext
  · rw [Point.lerp_x, Point.lerp_x]
    field_simp
    simp only [side_def]
    ring
  · rw [Point.lerp_y, Point.lerp_y]
    field_simp
    simp only [side_def]
    ring

/-- **On one line, one of two segments with a common point has an end on the other**: an end of the
second lies on the first, or the two lie past it on either side, and then the first lies on the
second. -/
theorem end_of_collinear (hne : a₁ ≠ a₂) (h₁ : side a₁ a₂ b₁ = 0) (h₂ : side a₁ a₂ b₂ = 0)
    (ha : Through a₁ a₂ p) (hb : Through b₁ b₂ p) :
    Through b₁ b₂ a₁ ∨ Through a₁ a₂ b₁ ∨ Through a₁ a₂ b₂ := by
  obtain ⟨x, rfl⟩ := exists_lerp_of_side_eq_zero hne h₁
  obtain ⟨y, rfl⟩ := exists_lerp_of_side_eq_zero hne h₂
  obtain ⟨u, hu0, hu1, rfl⟩ := ha
  obtain ⟨v, hv0, hv1, huv⟩ := hb
  rw [Point.lerp_lerp] at huv
  have hmix : x * (1 - v) + y * v = u := lerp_injective hne huv
  by_cases hx : 0 ≤ x ∧ x ≤ 1
  · exact .inr (.inl ⟨x, hx.1, hx.2, rfl⟩)
  by_cases hy : 0 ≤ y ∧ y ≤ 1
  · exact .inr (.inr ⟨y, hy.1, hy.2, rfl⟩)
  obtain ⟨hd, h0, h1⟩ :=
    Scalar.zero_crossing (Scalar.either_side_of_mix hx hy hv0 hv1 (hmix ▸ hu0) (hmix ▸ hu1))
  refine .inl ⟨x / (x - y), h0, h1, ?_⟩
  rw [Point.lerp_lerp, Scalar.mix_zero_crossing hd, Point.lerp_zero]

/-- Parallel segments with a common point lie on one line. -/
theorem end_of_parallel (hparallel : side b₁ b₂ a₁ = side b₁ b₂ a₂) (ha : Through a₁ a₂ p)
    (hb : Through b₁ b₂ p) : Through b₁ b₂ a₁ ∨ Through a₁ a₂ b₁ ∨ Through a₁ a₂ b₂ := by
  by_cases hne : a₁ = a₂
  · obtain ⟨t, -, -, ht⟩ := ha
    have hp : a₁ = p := by
      rw [← ht, ← hne]
      ext <;> simp only [Point.lerp_x, Point.lerp_y] <;> ring
    exact .inl (hp ▸ hb)
  · have hsides : side a₁ a₂ b₁ = side a₁ a₂ b₂ :=
      (sub_eq_zero.1 (by rw [← side_sub_side, hparallel, sub_self])).symm
    have ⟨t, _, _, ht⟩ := hb
    have hmix := mix_side_eq_zero ht ha
    have h₁ : side a₁ a₂ b₁ = 0 := by
      rw [← hsides] at hmix
      linear_combination hmix
    exact end_of_collinear hne h₁ (hsides ▸ h₁) ha hb

/-! ## The tests -/

variable [LawfulBEq α]

theorem boxed_iff : boxed a b p = true ↔
    (Min.min a.x b.x ≤ p.x ∧ p.x ≤ Max.max a.x b.x)
      ∧ Min.min a.y b.y ≤ p.y ∧ p.y ≤ Max.max a.y b.y := by
  simp only [boxed, Scalar.min_eq, Scalar.max_eq, Bool.and_eq_true, decide_eq_true_eq]
  tauto

/-- **A point on the line and in the box is on the segment.** -/
theorem through_iff : Through a b p ↔ side a b p = 0 ∧ boxed a b p = true := by
  rw [boxed_iff]
  constructor
  · intro h
    refine ⟨side_eq_zero_of_through h, ?_⟩
    obtain ⟨t, h0, h1, rfl⟩ := h
    exact ⟨Scalar.mix_mem_Icc h0 h1, Scalar.mix_mem_Icc h0 h1⟩
  · rintro ⟨hside, ⟨hxmin, hxmax⟩, hymin, hymax⟩
    by_cases hne : a = b
    · subst hne
      rw [min_self] at hxmin hymin
      rw [max_self] at hxmax hymax
      exact ⟨0, le_rfl, zero_le_one, by
        rw [Point.lerp_zero]; exact Point.ext (hxmin.antisymm hxmax) (hymin.antisymm hymax)⟩
    · obtain ⟨t, rfl⟩ := exists_lerp_of_side_eq_zero hne hside
      -- the box bounds the fraction in the coordinate that tells the ends apart
      have ht : 0 ≤ t ∧ t ≤ 1 := by
        rcases Point.x_ne_or_y_ne hne with hx | hy
        · exact Scalar.fraction_of_mem_Icc hx hxmin hxmax
        · exact Scalar.fraction_of_mem_Icc hy hymin hymax
      exact ⟨t, ht.1, ht.2, rfl⟩

/-- The test, read as what it is about: a proper crossing, or an end of one on the other. -/
theorem meets_iff_crossing_or_end : meets a₁ a₂ b₁ b₂ = true ↔
    (opposite (side b₁ b₂ a₁) (side b₁ b₂ a₂) = true
        ∧ opposite (side a₁ a₂ b₁) (side a₁ a₂ b₂) = true)
      ∨ Through b₁ b₂ a₁ ∨ Through b₁ b₂ a₂ ∨ Through a₁ a₂ b₁ ∨ Through a₁ a₂ b₂ := by
  simp only [meets, Bool.or_eq_true, Bool.and_eq_true, beq_iff_eq, through_iff]
  tauto

/-- **Two segments meet exactly when they have a common point.** -/
theorem meets_iff :
    meets a₁ a₂ b₁ b₂ = true ↔ ∃ p, Through a₁ a₂ p ∧ Through b₁ b₂ p := by
  rw [meets_iff_crossing_or_end]
  constructor
  · rintro (⟨hs, ht⟩ | h | h | h | h)
    · exact exists_through_of_opposite hs ht
    · exact ⟨a₁, .left .., h⟩
    · exact ⟨a₂, .right .., h⟩
    · exact ⟨b₁, h, .left ..⟩
    · exact ⟨b₂, h, .right ..⟩
  · rintro ⟨p, ha, hb⟩
    rcases ha.eq_or_between with rfl | rfl | ⟨u, hu0, hu1, hu⟩
    · exact .inr (.inl hb)
    · exact .inr (.inr (.inl hb))
    rcases hb.eq_or_between with rfl | rfl | ⟨v, hv0, hv1, hv⟩
    · exact .inr (.inr (.inr (.inl ha)))
    · exact .inr (.inr (.inr (.inr ha)))
    -- the point is an end of neither
    by_cases hparallel : side b₁ b₂ a₁ = side b₁ b₂ a₂
    · rcases end_of_parallel hparallel ha hb with h | h | h
      · exact .inr (.inl h)
      · exact .inr (.inr (.inr (.inl h)))
      · exact .inr (.inr (.inr (.inr h)))
    · have hcrossing : side a₁ a₂ b₁ ≠ side a₁ a₂ b₂ := fun h =>
        hparallel (sub_eq_zero.1 (by rw [side_sub_side, h, sub_self]))
      exact .inl
        ⟨opposite_iff.2
          (Scalar.opposite_of_mix_eq_zero hu0 hu1 hparallel (mix_side_eq_zero hu hb)),
        opposite_iff.2
          (Scalar.opposite_of_mix_eq_zero hv0 hv1 hcrossing (mix_side_eq_zero hv ha))⟩

end Segment

/-- **The test of two segments is exact.**  Whether they cross, touch or lie on one line, and also
where one of them is a single point, it tells whether the two closed segments of the plane have a
point in common. -/
theorem segments_meet_iff_common_point {α : Type} [ExactScalar α] [LawfulBEq α]
    (a₁ a₂ b₁ b₂ : Point α) : Segment.meets a₁ a₂ b₁ b₂ = true
      ↔ (segment α a₁.coords a₂.coords ∩ segment α b₁.coords b₂.coords).Nonempty := by
  rw [Segment.meets_iff]
  constructor
  · rintro ⟨p, ha, hb⟩
    exact ⟨p.coords, Segment.through_iff_mem_segment.1 ha, Segment.through_iff_mem_segment.1 hb⟩
  · rintro ⟨⟨x, y⟩, ha, hb⟩
    exact ⟨⟨x, y⟩, Segment.through_iff_mem_segment.2 ha, Segment.through_iff_mem_segment.2 hb⟩

/-- On one line, two segments meet where they overlap, and do not where one ends before the other
begins. -/
theorem collinear_segments_meet :
    Segment.meets (⟨0, 0⟩ : Point ℚ) ⟨2, 2⟩ ⟨1, 1⟩ ⟨3, 3⟩ = true
      ∧ (segment ℚ ((0, 0) : ℚ × ℚ) (2, 2) ∩ segment ℚ (1, 1) (3, 3)).Nonempty
      ∧ Segment.meets (⟨0, 0⟩ : Point ℚ) ⟨1, 1⟩ ⟨2, 2⟩ ⟨3, 3⟩ = false
      ∧ ¬ (segment ℚ ((0, 0) : ℚ × ℚ) (1, 1) ∩ segment ℚ (2, 2) (3, 3)).Nonempty := by
  have hmeets : Segment.meets (⟨0, 0⟩ : Point ℚ) ⟨2, 2⟩ ⟨1, 1⟩ ⟨3, 3⟩ = true := by decide +kernel
  have hapart : Segment.meets (⟨0, 0⟩ : Point ℚ) ⟨1, 1⟩ ⟨2, 2⟩ ⟨3, 3⟩ = false := by decide +kernel
  refine ⟨hmeets, (segments_meet_iff_common_point ..).1 hmeets, hapart, fun hcommon => ?_⟩
  exact Bool.false_ne_true (hapart.symm.trans ((segments_meet_iff_common_point ..).2 hcommon))

/-! ## The points of a polyline -/

namespace Polyline

variable {α : Type} [ExactScalar α] {line : List (Point α)} {v : Point α}

/-- **The polyline goes through `p`**: one of its edges does. -/
def Through (line : List (Point α)) (p : Point α) : Prop :=
  ∃ edge ∈ consecutive line, Segment.Through edge.1 edge.2 p

/-- From two vertices on, the polyline goes through all of them. -/
theorem through_of_mem_cons_cons (a b : Point α) (rest : List (Point α))
    (hv : v ∈ a :: b :: rest) : Through (a :: b :: rest) v := by
  induction rest generalizing a b with
  | nil =>
    refine ⟨(a, b), List.mem_cons_self, ?_⟩
    rcases List.mem_pair.1 hv with rfl | rfl
    · exact .left ..
    · exact .right ..
  | cons c rest ih =>
    rcases List.mem_cons.1 hv with rfl | hv
    · exact ⟨(v, b), List.mem_cons_self, .left ..⟩
    · obtain ⟨edge, hedge, hthrough⟩ := ih b c hv
      exact ⟨edge, List.mem_cons_of_mem (a, b) hedge, hthrough⟩

/-- **A polyline goes through its vertices**, unless it is a single vertex. -/
theorem through_of_mem (hline : line.length ≠ 1) (hv : v ∈ line) : Through line v := by
  match line, hline with
  | a :: b :: rest, _ => exact through_of_mem_cons_cons a b rest hv

end Polyline

end DriveDecision
