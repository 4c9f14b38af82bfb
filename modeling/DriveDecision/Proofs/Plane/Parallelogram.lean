import DriveDecision.Proofs.Plane.RayCasting

/-!
# Proofs/Plane/Parallelogram — a polyline touches a parallelogram where it has a point of it

        b ─────────────── a
         ╲     q · · · · · ╲ · · v        from an enclosed point `q` on towards a vertex `v`:
          ╲                 r                either `v` is inside,
           c ─────────────── d               or an edge is met at `r`

The points of a parallelogram are those to the left of every edge or on it (`Encloses`).  A polyline
with such a point, followed from there to the end of its edge, stays inside or passes an edge
(`exists_side_eq_zero_or_all_pos`).  In the one case the ray from its vertex crosses one rising edge
(`contains_of_sides_pos`), in the other two segments have a common point (`through_edge`).
-/

namespace DriveDecision.Polygon

open Segment

variable {α : Type} [ExactScalar α] {corners line : List (Point α)} {a b c d p q r : Point α}

/-! ## Left of every edge -/

/-- **To the left of every edge**, or on it. -/
def Encloses (corners : List (Point α)) (p : Point α) : Prop :=
  ∀ e ∈ edges corners, 0 ≤ side e.1 e.2 p

theorem Encloses.of_through (hp : Encloses corners p) (hq : Encloses corners q)
    (hr : Through p q r) : Encloses corners r :=
  fun e he => side_nonneg_of_through (hp e he) (hq e he) hr

/-- From the left of a line to its right there is a point on it. -/
theorem exists_side_eq_zero (hp : 0 ≤ side a b p) (hq : side a b q ≤ 0) :
    ∃ r, Through p q r ∧ side a b r = 0 := by
  rcases hp.eq_or_lt with hp | hp
  · exact ⟨p, .left p q, hp.symm⟩
  · obtain ⟨hd, h0, h1⟩ := Scalar.zero_crossing (.inl ⟨hp, hq⟩)
    exact ⟨_, ⟨_, h0, h1, rfl⟩, by rw [side_lerp, Scalar.mix_zero_crossing hd]⟩

/-- A way that ends on the other side of a line, or on it, and to the left of some others, has a
point on that line to the left of the others. -/
theorem exists_on_line_of_past {e : Point α × Point α} {es : List (Point α × Point α)}
    (hp : ∀ e' ∈ e :: es, 0 ≤ side e'.1 e'.2 p) (hre : side e.1 e.2 r ≤ 0)
    (hres : ∀ e' ∈ es, 0 ≤ side e'.1 e'.2 r) :
    ∃ s, Through p r s ∧ (∀ e' ∈ e :: es, 0 ≤ side e'.1 e'.2 s) ∧ side e.1 e.2 s = 0 := by
  obtain ⟨hpe, hpes⟩ := List.forall_mem_cons.1 hp
  obtain ⟨s, hs, hse⟩ := exists_side_eq_zero hpe hre
  refine ⟨s, hs, List.forall_mem_cons.2 ⟨hse.ge, fun e' he' => ?_⟩, hse⟩
  exact side_nonneg_of_through (hpes e' he') (hres e' he') hs

/-- **A way that starts to the left of some lines ends there, or comes to one of them first.** -/
theorem exists_side_eq_zero_or_all_pos (es : List (Point α × Point α))
    (hp : ∀ e ∈ es, 0 ≤ side e.1 e.2 p) :
    (∀ e ∈ es, 0 < side e.1 e.2 q)
      ∨ ∃ r, Through p q r ∧ (∀ e ∈ es, 0 ≤ side e.1 e.2 r) ∧ ∃ e ∈ es, side e.1 e.2 r = 0 := by
  induction es with
  | nil => exact .inl fun e he => absurd he List.not_mem_nil
  | cons e es ih =>
    rcases ih (List.forall_mem_cons.1 hp).2 with hq | ⟨r, hr, hres, e', he', hzero⟩
    -- the others are never come to: the line of `e` is, or the way ends to its left too
    · by_cases hqe : 0 < side e.1 e.2 q
      · exact .inl (List.forall_mem_cons.2 ⟨hqe, hq⟩)
      · obtain ⟨s, hs, hss, hse⟩ :=
          exists_on_line_of_past hp (not_lt.1 hqe) fun e' he' => (hq e' he').le
        exact .inr ⟨s, hs, hss, e, List.mem_cons_self, hse⟩
    -- one of the others is come to at `r`: the line of `e` is come to before, or not yet
    · by_cases hre : 0 ≤ side e.1 e.2 r
      · exact .inr ⟨r, hr, List.forall_mem_cons.2 ⟨hre, hres⟩, e',
          List.mem_cons_of_mem e he', hzero⟩
      · obtain ⟨s, hs, hss, hse⟩ := exists_on_line_of_past hp (not_le.1 hre).le hres
        exact .inr ⟨s, (Through.left p q).trans hr hs, hss, e, List.mem_cons_self, hse⟩

/-! ## Parallelograms -/

theorem edges_four {β : Type} (a b c d : β) :
    edges [a, b, c, d] = [(a, b), (b, c), (c, d), (d, a)] := rfl

/-- **A parallelogram, counter-clockwise**: the diagonals halve each other, and there is an area. -/
structure IsParallelogram (a b c d : Point α) : Prop where
  x_eq : a.x + c.x = b.x + d.x
  y_eq : a.y + c.y = b.y + d.y
  area_pos : 0 < side a b c

namespace IsParallelogram

/-- The area is the same at every corner. -/
theorem side_rotate (h : IsParallelogram a b c d) : side b c d = side a b c := by
  simp only [side_def]
  linear_combination (c.y - b.y) * h.x_eq - (c.x - b.x) * h.y_eq

/-- It can be read from any corner on. -/
theorem rotate (h : IsParallelogram a b c d) : IsParallelogram b c d a where
  x_eq := by linear_combination -h.x_eq
  y_eq := by linear_combination -h.y_eq
  area_pos := h.side_rotate ▸ h.area_pos

/-- How far `p` is from two neighbouring edges says how far along them it is. -/
theorem area_mul_sub (h : IsParallelogram a b c d) (p : Point α) :
    side a b c * (p.x - a.x) = side d a p * (b.x - a.x) + side a b p * (d.x - a.x)
      ∧ side a b c * (p.y - a.y) = side d a p * (b.y - a.y) + side a b p * (d.y - a.y) := by
  have hx : c.x = b.x + d.x - a.x := by linear_combination h.x_eq
  have hy : c.y = b.y + d.y - a.y := by linear_combination h.y_eq
  simp only [side_def, hx, hy]
  constructor <;> ring

/-- The sides of two opposite edges add up. -/
theorem side_add_side (h : IsParallelogram a b c d) (p : Point α) :
    side a b p + side c d p = side a b c := by
  have hx : d.x = a.x + c.x - b.x := by linear_combination -h.x_eq
  have hy : d.y = a.y + c.y - b.y := by linear_combination -h.y_eq
  simp only [side_def, hx, hy]
  ring

/-- **An enclosed point on the line of an edge is on the edge.** -/
theorem through_edge (h : IsParallelogram a b c d) (hbc : 0 ≤ side b c p) (hda : 0 ≤ side d a p)
    (hab : side a b p = 0) : Through a b p := by
  have harea := h.area_pos
  obtain ⟨hx, hy⟩ := h.area_mul_sub p
  have hsum := h.rotate.side_add_side p
  rw [h.side_rotate] at hsum
  refine ⟨side d a p / side a b c, div_nonneg hda harea.le, ?_, Point.ext ?_ ?_⟩
  · exact (div_le_one harea).2 (by linarith)
  · rw [Point.lerp_x]
    field_simp
    rw [hab] at hx
    linear_combination -hx
  · rw [Point.lerp_y]
    field_simp
    rw [hab] at hy
    linear_combination -hy

/-- …and so for each of the four. -/
theorem through_of_mem_edges (h : IsParallelogram a b c d) (hp : Encloses [a, b, c, d] p)
    {e : Point α × Point α} (he : e ∈ edges [a, b, c, d]) (hzero : side e.1 e.2 p = 0) :
    Through e.1 e.2 p := by
  simp only [Encloses, edges_four, List.forall_mem_cons] at hp
  obtain ⟨hab, hbc, hcd, hda, -⟩ := hp
  simp only [edges_four, List.mem_cons, List.not_mem_nil, or_false] at he
  rcases he with rfl | rfl | rfl | rfl
  · exact h.through_edge hbc hda hzero
  · exact h.rotate.through_edge hcd hab hzero
  · exact h.rotate.rotate.through_edge hda hbc hzero
  · exact h.rotate.rotate.rotate.through_edge hab hcd hzero

/-- The corners are to the left of an edge, or on it. -/
theorem side_corner_nonneg (h : IsParallelogram a b c d) {v : Point α}
    (hv : v ∈ [a, b, c, d]) : 0 ≤ side a b v := by
  simp only [List.mem_cons, List.not_mem_nil, or_false] at hv
  rcases hv with rfl | rfl | rfl | rfl
  · exact (side_left ..).ge
  · exact (side_right ..).ge
  · exact h.area_pos.le
  · have hsum := h.side_add_side v
    rw [side_right, add_zero] at hsum
    exact hsum ▸ h.area_pos.le

/-- **A parallelogram encloses its corners.** -/
theorem encloses_corner (h : IsParallelogram a b c d) {v : Point α} (hv : v ∈ [a, b, c, d]) :
    Encloses [a, b, c, d] v := by
  simp only [Encloses, edges_four, List.forall_mem_cons]
  refine ⟨h.side_corner_nonneg hv, h.rotate.side_corner_nonneg ?_,
    h.rotate.rotate.side_corner_nonneg ?_, h.rotate.rotate.rotate.side_corner_nonneg ?_,
    fun e he => absurd he List.not_mem_nil⟩
  all_goals
    simp only [List.mem_cons, List.not_mem_nil, or_false] at hv ⊢
    tauto

/-! ### The ray of a point strictly inside -/

/-- The point is a mixture of the corners, each weighted with its distances from the edges that do
not end there. -/
theorem weighted_levels (h : IsParallelogram a b c d) (p : Point α) :
    (a.y - p.y) * (side b c p * side c d p) + (b.y - p.y) * (side d a p * side c d p)
      + (c.y - p.y) * (side d a p * side a b p) + (d.y - p.y) * (side b c p * side a b p) = 0 := by
  have hx : c.x = b.x + d.x - a.x := by linear_combination h.x_eq
  have hy : c.y = b.y + d.y - a.y := by linear_combination h.y_eq
  simp only [side_def, hx, hy]
  ring

section

variable (h : IsParallelogram a b c d) (hp : ∀ e ∈ edges [a, b, c, d], 0 < side e.1 e.2 p)

include h hp

/-- A point strictly inside is not below all corners… -/
theorem not_all_above : ¬ (p.y < a.y ∧ p.y < b.y ∧ p.y < c.y ∧ p.y < d.y) := by
  have hweights := h.weighted_levels p
  simp only [edges_four, List.forall_mem_cons] at hp
  obtain ⟨hab, hbc, hcd, hda, -⟩ := hp
  rintro ⟨ha, hb, hc, hd⟩
  have h₁ := mul_pos (sub_pos.2 ha) (mul_pos hbc hcd)
  have h₂ := mul_pos (sub_pos.2 hb) (mul_pos hda hcd)
  have h₃ := mul_pos (sub_pos.2 hc) (mul_pos hda hab)
  have h₄ := mul_pos (sub_pos.2 hd) (mul_pos hbc hab)
  linarith

/-- …nor above them all or level with them. -/
theorem not_all_below : ¬ (a.y ≤ p.y ∧ b.y ≤ p.y ∧ c.y ≤ p.y ∧ d.y ≤ p.y) := by
  have hweights := h.weighted_levels p
  simp only [edges_four, List.forall_mem_cons] at hp
  obtain ⟨hab, hbc, hcd, hda, -⟩ := hp
  rintro ⟨ha, hb, hc, hd⟩
  have h₁ := mul_nonpos_of_nonpos_of_nonneg (sub_nonpos.2 ha) (mul_pos hbc hcd).le
  have h₂ := mul_nonpos_of_nonpos_of_nonneg (sub_nonpos.2 hb) (mul_pos hda hcd).le
  have h₃ := mul_nonpos_of_nonpos_of_nonneg (sub_nonpos.2 hc) (mul_pos hda hab).le
  have h₄ := mul_nonpos_of_nonpos_of_nonneg (sub_nonpos.2 hd) (mul_pos hbc hab).le
  -- all four vanish, so two neighbours are level with the point: it is on the line of their edge
  have ha' : a.y - p.y = 0 := by
    have hzero : (a.y - p.y) * (side b c p * side c d p) = 0 := by linarith
    exact (mul_eq_zero.1 hzero).resolve_right (mul_pos hbc hcd).ne'
  have hb' : b.y - p.y = 0 := by
    have hzero : (b.y - p.y) * (side d a p * side c d p) = 0 := by linarith
    exact (mul_eq_zero.1 hzero).resolve_right (mul_pos hda hcd).ne'
  refine hab.ne' ?_
  rw [side_def]
  linear_combination (p.x - b.x) * ha' - (p.x - a.x) * hb'

end

/-- Opposite corners are not on one side of a level with the other two on the other: the diagonals
halve each other. -/
theorem not_alternate (h : IsParallelogram a b c d) (y : α) :
    ¬ ((y < a.y ↔ y < c.y) ∧ (y < b.y ↔ y < d.y) ∧ ¬ (y < a.y ↔ y < b.y)) := by
  rintro ⟨hac, hbd, hne⟩
  have hy := h.y_eq
  by_cases ha : y < a.y
  · have hb : ¬ y < b.y := fun hb => hne (iff_of_true ha hb)
    linarith [hac.1 ha, not_lt.1 hb, not_lt.1 (mt hbd.2 hb)]
  · have hb : y < b.y := not_not.1 fun hb => hne (iff_of_false ha hb)
    linarith [hbd.1 hb, not_lt.1 ha, not_lt.1 (mt hac.2 ha)]

/-- Around four corners that are neither all on one side nor on alternate sides, there is one way
up. -/
theorem countP_rises_odd {β : Type} (above : β → Bool) (a b c d : β)
    (hall : ¬ (above a = true ∧ above b = true ∧ above c = true ∧ above d = true))
    (hnone : ¬ (above a = false ∧ above b = false ∧ above c = false ∧ above d = false))
    (halternate : ¬ (above a = above c ∧ above b = above d ∧ ¬ above a = above b)) :
    (edges [a, b, c, d]).countP (fun e => !above e.1 && above e.2) % 2 = 1 := by
  simp only [edges_four, List.countP_cons, List.countP_nil]
  revert hall hnone halternate
  generalize above a = A, above b = B, above c = C, above d = D
  revert A B C D
  decide

/-- **The ray of a point strictly inside crosses one edge.** -/
theorem contains_of_sides_pos (h : IsParallelogram a b c d)
    (hp : ∀ e ∈ edges [a, b, c, d], 0 < side e.1 e.2 p) : contains [a, b, c, d] p = true := by
  have hrises : (edges [a, b, c, d]).countP (fun e => rayCrosses p e.1 e.2)
      = (edges [a, b, c, d]).countP (fun e => !decide (p.y < e.1.y) && decide (p.y < e.2.y)) := by
    refine List.countP_congr fun e he => ?_
    rw [rayCrosses_iff_rises (hp e he)]
    simp
  have hodd := countP_rises_odd (fun v : Point α => decide (p.y < v.y)) a b c d
    (by simpa only [decide_eq_true_eq] using h.not_all_above hp)
    (by simpa only [decide_eq_false_iff_not, not_lt] using h.not_all_below hp)
    (by simpa only [decide_eq_decide] using h.not_alternate p.y)
  rw [contains, hrises, hodd]
  rfl

/-! ### Polylines -/

variable [LawfulBEq α]

/-- **A polyline touches a parallelogram exactly when it goes through a point of it.** -/
theorem touches_iff (h : IsParallelogram a b c d) (hline : line.length ≠ 1) :
    touches [a, b, c, d] line = true
      ↔ ∃ q, Polyline.Through line q ∧ Encloses [a, b, c, d] q := by
  have htouches : touches [a, b, c, d] line = true
      ↔ (∃ v ∈ line, contains [a, b, c, d] v = true) ∨ ∃ step ∈ consecutive line,
        ∃ e ∈ edges [a, b, c, d], meets step.1 step.2 e.1 e.2 = true := by
    simp [touches]
  rw [htouches]
  constructor
  · rintro (⟨v, hv, hinside⟩ | ⟨step, hstep, e, he, hmeets⟩)
    · refine ⟨v, Polyline.through_of_mem hline hv, fun e he => ?_⟩
      exact side_nonneg_of_contains (fun c hc => h.encloses_corner hc e he) hinside
    · obtain ⟨q, hq, hqe⟩ := meets_iff.1 hmeets
      obtain ⟨he₁, he₂⟩ := mem_of_mem_edges he
      exact ⟨q, ⟨step, hstep, hq⟩, (h.encloses_corner he₁).of_through (h.encloses_corner he₂) hqe⟩
  · rintro ⟨q, ⟨step, hstep, hq⟩, henclosed⟩
    rcases exists_side_eq_zero_or_all_pos (q := step.1) _ henclosed with
      hpos | ⟨r, hr, hrencl, e, he, hzero⟩
    · exact .inl ⟨step.1, (List.of_mem_zip hstep).1, h.contains_of_sides_pos hpos⟩
    · exact .inr ⟨step, hstep, e, he, meets_iff.2
        ⟨r, hq.trans (.left ..) hr, h.through_of_mem_edges hrencl he hzero⟩⟩

end IsParallelogram

end DriveDecision.Polygon
