import DriveDecision.Plane.Polyline

/-!
# Plane/Polygon — crossings of segments, polylines and closed outlines

A polygon is its list of corners; the last corner is joined to the first.  Segments are closed: they
contain their ends.
-/

namespace DriveDecision

/-! ## Segments -/

namespace Segment

variable {α : Type} [Scalar α]

/-- On which side of the line through `a` and `b` the point `c` lies: left is positive. -/
def side (a b c : Point α) : α := (b - a).cross (c - a)

/-- Whether `p` lies in the box spanned by `a` and `b`. -/
def boxed (a b p : Point α) : Bool :=
  Scalar.min a.x b.x ≤ p.x && p.x ≤ Scalar.max a.x b.x
    && Scalar.min a.y b.y ≤ p.y && p.y ≤ Scalar.max a.y b.y

/-- Strictly on different sides. -/
def opposite (s t : α) : Bool := (0 < s && t < 0) || (s < 0 && 0 < t)

/-- **Whether two closed segments meet**: they cross properly, or an end of one lies on the
other. -/
def meets (a₁ a₂ b₁ b₂ : Point α) : Bool :=
  let s₁ := side b₁ b₂ a₁
  let s₂ := side b₁ b₂ a₂
  let t₁ := side a₁ a₂ b₁
  let t₂ := side a₁ a₂ b₂
  (opposite s₁ s₂ && opposite t₁ t₂)
    || (s₁ == 0 && boxed b₁ b₂ a₁)
    || (s₂ == 0 && boxed b₁ b₂ a₂)
    || (t₁ == 0 && boxed a₁ a₂ b₁)
    || (t₂ == 0 && boxed a₁ a₂ b₂)

end Segment

/-! ## Polygons -/

namespace Polygon

variable {α : Type} [Scalar α]

/-- The edges of a closed outline, each from a corner to the next. -/
def edges {β : Type} : List β → List (β × β)
  | [] => []
  | corner :: rest => (corner :: rest).zip (rest ++ [corner])

/-- Whether the ray from `p` along the first axis crosses the edge from `a` to `b`. -/
def rayCrosses (p a b : Point α) : Bool :=
  decide (p.y < b.y) != decide (p.y < a.y)
    && p.x < (a.x - b.x) * (p.y - b.y) / (a.y - b.y) + b.x

/-- **Whether `p` lies inside**: its ray crosses an odd number of edges.  A point on an edge may
count as either. -/
def contains (corners : List (Point α)) (p : Point α) : Bool :=
  3 ≤ corners.length && (edges corners).countP (fun e => rayCrosses p e.1 e.2) % 2 == 1

/-- **Whether a polyline touches a polygon**: a vertex lies inside, or two edges meet. -/
def touches (corners line : List (Point α)) : Bool :=
  3 ≤ corners.length
    && (line.any (contains corners)
      || (consecutive line).any fun step =>
        (edges corners).any fun edge => Segment.meets step.1 step.2 edge.1 edge.2)

end Polygon

end DriveDecision
