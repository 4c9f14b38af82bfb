import DriveDecision.Proofs.Access.Indexing
import DriveDecision.Proofs.Signal.TurnEnding
import DriveDecision.Road.Network

/-!
# Proofs/Access/Centerlines — lanes and their samples are read within range

    samples    q₀     q₁     …     qₙ₋₂    qₙ₋₁
    heading    0 → 1  1 → 2        n-2 → n-1, of both of the last

Here a centerline is measured two points at a time, and the end of a turn is searched among its
samples by index: each heading reads its own sample and the next, and the last reads the one before.
Whatever the centerline, nothing is read outside it or its samples, and the results are those of
`Signal/TurnEnd` and `Road/Network`.
-/

namespace DriveDecision

namespace Indexed

variable {α : Type} [Scalar α]

/-! ## Measuring -/

def lineLength (line : List (Point α)) : Access α := do
  return Scalar.sum ((← pairs line).map fun (a, b) => a.distance b)

/-- The point at arc length `s` on the edges left, of which `done` is already behind. -/
def walk (s : α) (last : Point α) : α → List (List (Point α)) → Access (Point α)
  | _, [] => return last
  | done, window :: rest => do
    let a ← fetch window 0
    let b ← fetch window 1
    let edge := a.distance b
    if s ≤ done + edge ∧ Scalar.epsilon < edge then return a.lerp b ((s - done) / edge)
    else walk s last (done + edge) rest

def pointAt? (line : List (Point α)) (s : α) : Access (Option (Point α)) := do
  match line.head?, line.getLast? with
  | some first, some last =>
    if s ≤ 0 then return some first else return some (← walk s last 0 (windows 2 line))
  | _, _ => return none

def distanceTo (lane : Lane α) (p : Point α) : Access α := do
  let clearances := (← pairs lane.centerline).map fun (a, b) => p.distance (Lane.footOn p a b)
  return clearances.foldl Scalar.min Scalar.greatest

/-- The lane of those left that `p` is on, when `best` is the nearest so far. -/
def closest? (p : Point α) (best : Option (Lane α × α)) : List (Lane α) → Access (Option LaneId)
  | [] => return best.map (·.1.id)
  | lane :: rest => do
    if lane.contains p then return some lane.id
    else
      let distance ← distanceTo lane p
      closest? p (if best.all fun b => distance < b.2 then some (lane, distance) else best) rest

/-! ## The end of a turn -/

def samples (centerline : List (Point α)) : Access (List (Point α)) := do
  let arcs := TurnEnd.arcs (← lineLength centerline)
  return (← arcs.mapM (pointAt? centerline)).filterMap id

/-- The heading of sample `i`. -/
def yawAt (line : List (Point α)) (i : Nat) : Access α := do
  if i + 1 < line.length then return (← fetch line i).azimuth (← fetch line (i + 1))
  else return (← fetch line (← minus i 1)).azimuth (← fetch line i)

/-- The end of a turn, of which the samples are given. -/
def settled? (line : List (Point α)) (threshold : α) : Access (Option (Pose α)) := do
  let last ← minus line.length 1
  let exit ← yawAt line last
  let found ← (List.range line.length).findM? fun i => do
    return Scalar.abs (wrapAngle ((← yawAt line i) - exit)) < threshold
  let i := found.getD last
  return some ⟨← fetch line i, ← yawAt line i⟩

def turnEnd? (centerline : List (Point α)) (threshold : α) : Access (Option (Pose α)) := do
  if centerline.length < 2 then return none
  else
    match ← samples centerline with
    | [] => return none
    | [p] =>
      let first ← fetch centerline 0
      let last ← fetch centerline (← minus centerline.length 1)
      return some ⟨p, first.azimuth last⟩
    | points => settled? points threshold

variable {line : List (Point α)} {p : Point α} {s threshold : α} {pose exit : Pose α} {i : Nat}

/-! ## They are read where they are -/

@[simp] theorem lineLength_eq : lineLength line = pure (Polyline.length line) := by
  rw [lineLength, pairs_eq]
  rfl

theorem walk_eq {here last : Point α} {done : α} {rest : List (Point α)}
    (hlast : (here :: rest).getLast? = some last) :
    walk s last done (windows 2 (here :: rest)) = pure (Polyline.walk s done here rest) := by
  induction rest generalizing here done with
  | nil =>
    obtain rfl := Option.some.inj hlast
    rfl
  | cons next rest ih =>
    have hwindows :
        windows 2 (here :: next :: rest) = [here, next] :: windows 2 (next :: rest) := by
      rw [windows_two, windows_two]
      rfl
    rw [hwindows, walk, fetch_eq rfl, fetch_eq rfl, Polyline.walk]
    simp only [pure_bind]
    rw [ih hlast, ← apply_ite]

@[simp] theorem pointAt?_eq : pointAt? line s = pure (Polyline.at? line s) := by
  cases line with
  | nil => rfl
  | cons first rest =>
    obtain ⟨last, hlast⟩ : ∃ last, (first :: rest).getLast? = some last :=
      ⟨_, List.getLast?_cons⟩
    simp only [pointAt?, Polyline.at?, List.head?_cons, hlast, walk_eq hlast, pure_bind]
    split_ifs <;> rfl

@[simp] theorem distanceTo_eq {lane : Lane α} : distanceTo lane p = pure (lane.distanceTo p) := by
  rw [distanceTo, pairs_eq]
  rfl

/-- Among the lanes left the first around the point is taken, or else the nearest of them and the
nearest so far. -/
theorem closest?_some {best : Lane α} {lanes : List (Lane α)} :
    closest? p (some (best, best.distanceTo p)) lanes
      = pure (some ((lanes.find? (·.contains p)).getD (lanes.foldl
          (fun b c => if c.distanceTo p < b.distanceTo p then c else b) best)).id) := by
  induction lanes generalizing best with
  | nil => rfl
  | cons lane rest ih =>
    rw [closest?, List.find?_cons, List.foldl_cons]
    by_cases hcontains : lane.contains p = true
    · simp [hcontains]
    · simp only [hcontains, distanceTo_eq, pure_bind, Option.all_some, decide_eq_true_eq]
      by_cases hnearer : lane.distanceTo p < best.distanceTo p
      · simp [hnearer, ih]
      · simp [hnearer, ih]

@[simp] theorem closest?_eq {net : Network α} :
    closest? p none net.routeLanes = pure (net.closestOnRoute? p) := by
  rw [Network.closestOnRoute?]
  cases net.routeLanes with
  | nil => rfl
  | cons lane rest =>
    rw [closest?, List.find?_cons]
    by_cases hcontains : lane.contains p = true
    · simp [hcontains]
    · simp only [hcontains, distanceTo_eq, pure_bind, Option.all_none]
      cases h : rest.find? (·.contains p) <;> simp [firstLeast?, closest?_some, h]

/-! ## Headings -/

/-- A sample is read with its heading. -/
theorem fetch_headed (h : (TurnEnd.headed line)[i]? = some pose) :
    fetch line i = pure pose.position ∧ yawAt line i = pure pose.yaw := by
  cases TurnEnd.getElem?_headed_iff.1 h with
  | @toward i a b ha hb =>
    have hi := (List.getElem?_eq_some_iff.1 hb).1
    refine ⟨fetch_eq ha, ?_⟩
    rw [yawAt, if_pos hi, fetch_eq ha, fetch_eq hb]
    rfl
  | @onward i a b ha hb hlast =>
    refine ⟨fetch_eq hb, ?_⟩
    rw [yawAt, if_neg (by omega), minus_eq (by omega), pure_bind, Nat.add_sub_cancel, fetch_eq ha,
      fetch_eq hb]
    rfl

/-- The first settled sample, or the last. -/
theorem settled?_eq (hline : 2 ≤ line.length) :
    settled? line threshold
      = pure ((TurnEnd.headed line).getLast?.bind fun exit =>
          ((TurnEnd.headed line).find? (TurnEnd.settled threshold exit)).or (some exit)) := by
  obtain ⟨exit, hexit⟩ := TurnEnd.exists_exit hline
  have hlength := TurnEnd.length_headed hline
  have hlast : (TurnEnd.headed line)[line.length - 1]? = some exit := by
    rw [← hlength, ← List.getLast?_eq_getElem?, hexit]
  have hsearch := findM?_range_eq (TurnEnd.headed line) (p := TurnEnd.settled threshold exit)
    (f := fun i => do return Scalar.abs (wrapAngle ((← yawAt line i) - exit.yaw)) < threshold)
    fun i pose hpose => by rw [(fetch_headed hpose).2]; rfl
  have hfound := find?_range (TurnEnd.settled threshold exit) (TurnEnd.headed line)
  rw [hlength] at hsearch hfound
  rw [settled?, minus_eq (Nat.le_of_succ_le hline), pure_bind, (fetch_headed hlast).2]
  simp only [pure_bind] at hsearch ⊢
  rw [hsearch, pure_bind, hexit, Option.bind_some, ← hfound]
  cases hindex : (List.range line.length).find? fun i =>
    (TurnEnd.headed line)[i]?.any (TurnEnd.settled threshold exit) with
  | none =>
    rw [Option.getD_none, (fetch_headed hlast).1, (fetch_headed hlast).2]
    rfl
  | some i =>
    have hi : i < (TurnEnd.headed line).length :=
      hlength ▸ List.mem_range.1 (List.mem_of_find?_eq_some hindex)
    have hpose := List.getElem?_eq_getElem hi
    rw [Option.getD_some, (fetch_headed hpose).1, (fetch_headed hpose).2, Option.bind_some, hpose]
    rfl

@[simp] theorem samples_eq : samples line = pure (TurnEnd.points line) := by
  simp only [samples, lineLength_eq, pure_bind]
  rw [mapM_eq (f := pointAt? line) fun s _ => pointAt?_eq, pure_bind, List.filterMap_map]
  rfl

@[simp] theorem turnEnd?_eq :
    turnEnd? line threshold = pure (TurnEnd.pose? line threshold) := by
  rcases line with _ | ⟨first, _ | ⟨second, rest⟩⟩
  · rfl
  · rfl
  · obtain ⟨last, hlast⟩ : ∃ last, (first :: second :: rest).getLast? = some last :=
      ⟨_, List.getLast?_cons⟩
    have hread : fetch (first :: second :: rest) ((first :: second :: rest).length - 1)
        = pure last := fetch_eq (by rw [← List.getLast?_eq_getElem?, hlast])
    have hmany : ¬ (first :: second :: rest).length < 2 := by simp
    rw [turnEnd?, if_neg hmany, samples_eq, pure_bind]
    simp only [TurnEnd.pose?, hlast]
    rcases TurnEnd.points (first :: second :: rest) with _ | ⟨p, _ | ⟨q, samples⟩⟩
    · rfl
    · simp only [minus_eq (Nat.le_of_succ_le (Nat.not_lt.1 hmany)), hread, pure_bind]
      rfl
    · exact settled?_eq (by simp)

end Indexed

end DriveDecision
