import DriveDecision.Plane.Point
import DriveDecision.Road.Path

/-!
# Signal/Anchors — where each upcoming turn was first seen

The desired span of a turn starts where ego was when the turn came in sight, and must not move while
ego drives on.  So the pose is kept under the lane's number until the path no longer leads there.
-/

namespace DriveDecision

/-- Poses under lane numbers, in ascending order and each number once. -/
structure Anchors (α : Type) where
  entries : List (LaneId × Pose α)
  ascending : entries.Pairwise fun a b => a.1 < b.1

namespace Anchors

variable {α : Type}

def empty : Anchors α := ⟨[], .nil⟩

instance : Inhabited (Anchors α) := ⟨empty⟩

/-- The pose kept under a number. -/
def get? (anchors : Anchors α) (id : LaneId) : Option (Pose α) := anchors.entries.lookup id

/-- `entry` put in its place, unless there already is one of its number. -/
def place (entry : LaneId × Pose α) : List (LaneId × Pose α) → List (LaneId × Pose α)
  | [] => [entry]
  | head :: rest =>
    if entry.1 < head.1 then entry :: head :: rest
    else if entry.1 = head.1 then head :: rest
    else head :: place entry rest

theorem mem_place {entry e : LaneId × Pose α} {entries : List (LaneId × Pose α)}
    (h : e ∈ place entry entries) : e = entry ∨ e ∈ entries := by
  induction entries with
  | nil => simpa [place] using h
  | cons head rest ih => grind [place]

theorem pairwise_place {entry : LaneId × Pose α} {entries : List (LaneId × Pose α)}
    (h : entries.Pairwise fun a b => a.1 < b.1) :
    (place entry entries).Pairwise fun a b => a.1 < b.1 := by
  induction entries with
  | nil => simp [place]
  | cons head rest ih =>
    rw [List.pairwise_cons] at h
    unfold place
    split
    · refine .cons (fun e he => ?_) (.cons h.1 h.2)
      rcases List.mem_cons.1 he with rfl | he
      · assumption
      · exact Int.lt_trans ‹_› (h.1 e he)
    · split
      · exact .cons h.1 h.2
      · refine .cons (fun e he => ?_) (ih h.2)
        rcases mem_place he with rfl | he
        · exact Int.lt_iff_le_and_ne.2 ⟨Int.not_lt.1 ‹_›, Ne.symm ‹_›⟩
        · exact h.1 e he

/-- **Keep `pose` under a number that has none yet.** -/
def anchor (anchors : Anchors α) (id : LaneId) (pose : Pose α) : Anchors α :=
  ⟨place (id, pose) anchors.entries, pairwise_place anchors.ascending⟩

/-- Forget the numbers that are not among `ids`. -/
def restrict (anchors : Anchors α) (ids : List LaneId) : Anchors α :=
  ⟨anchors.entries.filter fun e => ids.contains e.1, anchors.ascending.filter _⟩

/-! ## What is found after an operation -/

@[simp] theorem get?_empty (id : LaneId) : (empty : Anchors α).get? id = none := rfl

theorem lookup_eq_none_of_lt {entries : List (LaneId × Pose α)} {id : LaneId}
    (h : ∀ e ∈ entries, id < e.1) : entries.lookup id = none := by
  rw [List.lookup_eq_none_iff]
  intro e he
  simpa using Int.ne_of_lt (h e he)

theorem lookup_head (head : LaneId × Pose α) (rest : List (LaneId × Pose α)) (id : LaneId) :
    (head :: rest).lookup id = if id = head.1 then some head.2 else rest.lookup id := by
  obtain ⟨key, pose⟩ := head
  by_cases h : id = key
  · simp [h]
  · have hb : (id == key) = false := beq_eq_false_iff_ne.2 h
    simp [List.lookup_cons, h, hb]

theorem lookup_place (entry : LaneId × Pose α) (entries : List (LaneId × Pose α)) (id : LaneId)
    (h : entries.Pairwise fun a b => a.1 < b.1) :
    (place entry entries).lookup id
      = (entries.lookup id).or (if id = entry.1 then some entry.2 else none) := by
  induction entries with
  | nil => grind [place]
  | cons head rest ih =>
    rw [List.pairwise_cons] at h
    have ih := ih h.2
    have hnone : ∀ i, i ≤ head.1 → rest.lookup i = none := fun i hi =>
      lookup_eq_none_of_lt fun e he => Int.lt_of_le_of_lt hi (h.1 e he)
    unfold place
    split
    · by_cases hid : id = entry.1
      · subst hid
        have := hnone entry.1 (Int.le_of_lt ‹_›)
        grind
      · grind
    · grind

/-- **The first anchor stays.** -/
theorem get?_anchor (anchors : Anchors α) (id : LaneId) (pose : Pose α) (other : LaneId) :
    (anchors.anchor id pose).get? other
      = (anchors.get? other).or (if other = id then some pose else none) :=
  lookup_place (id, pose) anchors.entries other anchors.ascending

theorem get?_restrict (anchors : Anchors α) (ids : List LaneId) (id : LaneId) :
    (anchors.restrict ids).get? id = if id ∈ ids then anchors.get? id else none := by
  obtain ⟨entries, h⟩ := anchors
  simp only [restrict, get?]
  clear h
  induction entries with
  | nil => simp
  | cons head rest ih =>
    rw [lookup_head, List.filter_cons]
    split
    · rw [lookup_head, ih]
      grind
    · rw [ih]
      grind

end Anchors

end DriveDecision
