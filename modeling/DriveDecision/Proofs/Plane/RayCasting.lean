import DriveDecision.Proofs.Plane.Segments

/-!
# Proofs/Plane/RayCasting — what the parity of the crossings says

    c₁ ─────────── c₀
     ╲              ╲
    ──q'─ ─ ─ p ─────q─────▸     edges through the level of `p`: an even number
       ╲              ╲          … of them to the right of `p`: odd, so `p` lies inside
        c₂ ─────────── c₃

Going once around an outline one comes back to the level one started at, so an even number of edges
pass through the level of `p` (`countP_changes_even`).  If the ray crosses an odd number of them,
there is one on either side of `p`, and `p` is in every half-plane that the corners are in
(`side_nonneg_of_contains`) — a half of what it is to be inside, for any outline.  The other half
needs an outline whose edges pass the level of `p` once upwards: with `p` to its left, an edge is
crossed exactly when it rises (`rayCrosses_iff_rises`).
-/

namespace DriveDecision.Polygon

/-! ## Once around -/

section

variable {β : Type} (above : β → Bool)

/-- Along a way the flag changes an even number of times if it ends as it began. -/
theorem countP_changes_mod_two (first last : β) (rest : List β) :
    ((first :: rest).zip (rest ++ [last])).countP (fun e => above e.2 != above e.1) % 2
      = if above first = above last then 0 else 1 := by
  induction rest generalizing first with
  | nil => cases h : above first <;> cases h' : above last <;> simp [h, h']
  | cons next rest ih =>
    have ih := ih next
    rw [List.cons_append, List.zip_cons_cons, List.countP_cons, Nat.add_mod, ih]
    cases above first <;> cases above next <;> cases above last <;> rfl

/-- **Once around an outline, a flag changes an even number of times.** -/
theorem countP_changes_even (corners : List β) :
    (edges corners).countP (fun e => above e.2 != above e.1) % 2 = 0 := by
  cases corners with
  | nil => rfl
  | cons first rest => rw [edges, countP_changes_mod_two, if_pos rfl]

/-- Moving the corners moves the edges. -/
theorem edges_map {γ : Type} (f : β → γ) (corners : List β) :
    edges (corners.map f) = (edges corners).map (Prod.map f f) := by
  cases corners with
  | nil => rfl
  | cons first rest =>
    simp only [List.map_cons, edges, ← List.zip_map, List.map_append, List.map_nil]

/-- The corners an edge joins. -/
theorem mem_of_mem_edges {corners : List β} {e : β × β} (he : e ∈ edges corners) :
    e.1 ∈ corners ∧ e.2 ∈ corners := by
  cases corners with
  | nil => exact absurd he List.not_mem_nil
  | cons first rest =>
    obtain ⟨h₁, h₂⟩ := List.of_mem_zip he
    refine ⟨h₁, ?_⟩
    rcases List.mem_append.1 h₂ with h | h
    · exact List.mem_cons_of_mem _ h
    · exact List.mem_singleton.1 h ▸ List.mem_cons_self

end

/-! ## One edge -/

variable {α : Type} [ExactScalar α] {a b p : Point α} {corners : List (Point α)}

/-- Whether an edge passes through the level of `p`, from above or from below. -/
def changesLevel (p a b : Point α) : Bool := decide (p.y < b.y) != decide (p.y < a.y)

/-- An edge through the level rises or falls through it. -/
theorem changesLevel_iff :
    changesLevel p a b = true ↔ (a.y ≤ p.y ∧ p.y < b.y) ∨ (b.y ≤ p.y ∧ p.y < a.y) := by
  rw [changesLevel, bne_iff_ne, ne_eq, decide_eq_decide]
  rcases lt_or_ge p.y a.y with ha | ha <;> rcases lt_or_ge p.y b.y with hb | hb <;>
    simp [ha, hb, not_lt.2, not_le.2]

/-- **An edge through the level of `p` has a point there**, and the ray crosses the edge if it lies
ahead. -/
theorem exists_level (h : changesLevel p a b = true) :
    ∃ q, Segment.Through a b q ∧ q.y = p.y ∧ (rayCrosses p a b = true ↔ p.x < q.x) := by
  have hsigns : (0 < a.y - p.y ∧ b.y - p.y ≤ 0) ∨ (a.y - p.y ≤ 0 ∧ 0 < b.y - p.y) := by
    rcases changesLevel_iff.1 h with ⟨ha, hb⟩ | ⟨hb, ha⟩
    · exact .inr ⟨sub_nonpos.2 ha, sub_pos.2 hb⟩
    · exact .inl ⟨sub_pos.2 ha, sub_nonpos.2 hb⟩
  obtain ⟨hd, h0, h1⟩ := Scalar.zero_crossing hsigns
  have hlevel := Scalar.mix_zero_crossing hd
  generalize (a.y - p.y) / (a.y - p.y - (b.y - p.y)) = t at h0 h1 hlevel
  rw [sub_sub_sub_cancel_right] at hd
  refine ⟨a.lerp b t, ⟨t, h0, h1, rfl⟩, ?_, ?_⟩
  · rw [Point.lerp_y]
    linear_combination hlevel
  · have hx : (a.x - b.x) * (p.y - b.y) / (a.y - b.y) + b.x = (a.lerp b t).x := by
      rw [Point.lerp_x]
      field_simp
      linear_combination (b.x - a.x) * hlevel
    rw [changesLevel] at h
    rw [rayCrosses, h, Bool.true_and, decide_eq_true_iff, hx]

theorem changesLevel_of_rayCrosses (h : rayCrosses p a b = true) : changesLevel p a b = true :=
  (Bool.and_eq_true_iff.1 h).1

/-- What the edge has at the level of a point to its left is ahead of the point if the edge rises,
and behind if it falls. -/
theorem ahead_of_left {q : Point α} (hleft : 0 < Segment.side a b p)
    (hq : Segment.Through a b q) (hlevel : q.y = p.y) : 0 < (b.y - a.y) * (q.x - p.x) := by
  have hon := Segment.side_eq_zero_of_through hq
  rw [Segment.side_def] at hleft hon
  rw [hlevel] at hon
  linear_combination hleft + hon

/-- **With the point to its left, an edge is crossed exactly when it rises** through the level of
the point. -/
theorem rayCrosses_iff_rises (hleft : 0 < Segment.side a b p) :
    rayCrosses p a b = true ↔ a.y ≤ p.y ∧ p.y < b.y := by
  constructor
  · intro h
    have hchange := changesLevel_of_rayCrosses h
    obtain ⟨q, hq, hqy, hcross⟩ := exists_level hchange
    have hrise : 0 < b.y - a.y :=
      pos_of_mul_pos_left (ahead_of_left hleft hq hqy) (sub_pos.2 (hcross.1 h)).le
    exact (changesLevel_iff.1 hchange).resolve_right fun ⟨hb, ha⟩ =>
      absurd (hb.trans_lt ha) (sub_pos.1 hrise).not_gt
  · rintro ⟨ha, hb⟩
    obtain ⟨q, hq, hqy, hcross⟩ := exists_level (changesLevel_iff.2 (.inl ⟨ha, hb⟩))
    have hrise : 0 < b.y - a.y := sub_pos.2 (ha.trans_lt hb)
    exact hcross.2 (sub_pos.1 (pos_of_mul_pos_right (ahead_of_left hleft hq hqy) hrise.le))

/-! ## The whole outline -/

/-- An odd number of crossings leaves an edge on either side of the point. -/
theorem exists_ahead_and_behind (h : contains corners p = true) :
    (∃ e ∈ edges corners, rayCrosses p e.1 e.2 = true)
      ∧ ∃ e ∈ edges corners, changesLevel p e.1 e.2 = true ∧ ¬ rayCrosses p e.1 e.2 = true := by
  obtain ⟨-, hodd⟩ := Bool.and_eq_true_iff.1 h
  have hodd : (edges corners).countP (fun e => rayCrosses p e.1 e.2) % 2 = 1 := beq_iff_eq.1 hodd
  constructor
  · exact List.countP_pos_iff.1 (by omega)
  · by_contra hnone
    have heven := countP_changes_even (fun c : Point α => decide (p.y < c.y)) corners
    have hcount : (edges corners).countP (fun e => rayCrosses p e.1 e.2)
        = (edges corners).countP (fun e => changesLevel p e.1 e.2) :=
      List.countP_congr fun e he =>
        ⟨changesLevel_of_rayCrosses, fun hc => not_not.1 fun hn => hnone ⟨e, he, hc, hn⟩⟩
    rw [hcount] at hodd
    exact absurd (heven.symm.trans hodd) (by decide)

/-- **A point inside lies in every half-plane that all corners lie in.** -/
theorem side_nonneg_of_contains (hcorners : ∀ c ∈ corners, 0 ≤ Segment.side a b c)
    (h : contains corners p = true) : 0 ≤ Segment.side a b p := by
  obtain ⟨⟨e, he, hcross⟩, e', he', hchange', hcross'⟩ := exists_ahead_and_behind h
  obtain ⟨q, hq, hqy, hahead⟩ := exists_level (changesLevel_of_rayCrosses hcross)
  obtain ⟨q', hq', hqy', hbehind⟩ := exists_level hchange'
  -- the edges are in the half-plane, and so is the level between them
  have hside : 0 ≤ Segment.side a b q :=
    Segment.side_nonneg_of_through (hcorners _ (mem_of_mem_edges he).1)
      (hcorners _ (mem_of_mem_edges he).2) hq
  have hside' : 0 ≤ Segment.side a b q' :=
    Segment.side_nonneg_of_through (hcorners _ (mem_of_mem_edges he').1)
      (hcorners _ (mem_of_mem_edges he').2) hq'
  have hx : p.x < q.x := hahead.1 hcross
  have hx' : q'.x ≤ p.x := not_lt.1 fun hlt => hcross' (hbehind.2 hlt)
  refine Segment.side_nonneg_of_through hside' hside
    ⟨(p.x - q'.x) / (q.x - q'.x), ?_, ?_, Point.ext ?_ ?_⟩
  · exact div_nonneg (by linarith) (by linarith)
  · exact (div_le_one (by linarith)).2 (by linarith)
  · have hd : q.x - q'.x ≠ 0 := (by linarith : 0 < q.x - q'.x).ne'
    rw [Point.lerp_x]
    field_simp
    ring
  · rw [Point.lerp_y, hqy, hqy']
    ring

end DriveDecision.Polygon
