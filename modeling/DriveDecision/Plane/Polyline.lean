import DriveDecision.Plane.Point

/-!
# Plane/Polyline — lengths and positions along a broken line

A polyline is its list of vertices.  Arc lengths are summed from the first vertex on, so the same
prefix always measures the same.
-/

namespace DriveDecision

/-- Each element of a list with the one after it. -/
def consecutive {β : Type} (bs : List β) : List (β × β) := bs.zip bs.tail

@[simp] theorem length_consecutive {β : Type} (bs : List β) :
    (consecutive bs).length = bs.length - 1 := by
  simp only [consecutive, List.length_zip, List.length_tail]
  omega

theorem getElem?_consecutive_iff {β : Type} {bs : List β} {i : Nat} {a b : β} :
    (consecutive bs)[i]? = some (a, b) ↔ bs[i]? = some a ∧ bs[i + 1]? = some b := by
  rw [consecutive, List.getElem?_zip_eq_some, List.getElem?_tail]

/-- Mapping the elements maps the pairs. -/
theorem consecutive_map {β γ : Type} (f : β → γ) (bs : List β) :
    consecutive (bs.map f) = (consecutive bs).map (Prod.map f f) := by
  rw [consecutive, ← List.map_tail, List.zip_map, consecutive]

namespace Polyline

variable {α : Type} [Scalar α]

/-- The sum of the lengths of the edges. -/
def length (line : List (Point α)) : α :=
  Scalar.sum ((consecutive line).map fun edge => edge.1.distance edge.2)

/-- The point at arc length `s` on the way from `here` on, where `done` is already behind. -/
def walk (s done : α) (here : Point α) : List (Point α) → Point α
  | [] => here
  | next :: rest =>
    let edge := here.distance next
    if s ≤ done + edge ∧ Scalar.epsilon < edge then here.lerp next ((s - done) / edge)
    else walk s (done + edge) next rest

/-- **The point at arc length `s`**, moved to the nearer end when `s` is past it. -/
def at? (line : List (Point α)) (s : α) : Option (Point α) :=
  match line with
  | [] => none
  | first :: rest => if s ≤ 0 then some first else some (walk s 0 first rest)

theorem at?_eq_none_iff {line : List (Point α)} {s : α} : at? line s = none ↔ line = [] := by
  cases line with
  | nil => simp [at?]
  | cons first rest => simp only [at?]; split <;> simp

end Polyline

end DriveDecision
