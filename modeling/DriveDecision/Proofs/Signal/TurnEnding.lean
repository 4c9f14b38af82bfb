import Mathlib.Order.Interval.Set.Defs
import Mathlib.Tactic.Linarith
import Mathlib.Tactic.NormNum
import DriveDecision.Proofs.Number.Least
import DriveDecision.Proofs.Plane.Polyline
import DriveDecision.Signal.TurnEnd

/-!
# Proofs/Signal/TurnEnding — the end of a turn is found

    arc length   0 ──── 1 ──── 2 ──── 3 ─ L         a last step of 0.1 to 1.1
    sample       q₀     q₁     q₂     q₃  q₄
    heading      ╱      ╱     ─      ─    ─         the turn ends at q₂

The centerline is sampled at every meter short of its length and at its length
(`TurnEnd.IsSampling`), and every sample heads for the next (`TurnEnd.HeadsAt`).  The turn ends at
the first one that heads about as the last does.  There is one, for the last itself does: no turn
wraps to none.  So the end of the turn is on the centerline, and where nothing is long enough to be
sampled twice it is the end of the centerline.
-/

namespace DriveDecision

namespace TurnEnd

section

variable {α : Type} [Scalar α] {threshold : α} {line samples : List (Point α)} {pose : Pose α}
  {i : ℕ}

/-! ## The samples -/

/-- **There is a sample at every arc length.** -/
theorem map_some_points (hline : line ≠ []) :
    (points line).map some = (arcs (Polyline.length line)).map (Polyline.at? line) := by
  rw [points, List.map_filterMap_some_eq_filter_map_isSome, List.filter_eq_self]
  simp [Option.isSome_iff_ne_none, Polyline.at?_eq_none_iff, hline]

/-- **How samples are headed**: from each to the next, and on from the last as it is reached. -/
inductive HeadsAt (samples : List (Point α)) : ℕ → Pose α → Prop
  | toward {i : ℕ} {a b : Point α} (ha : samples[i]? = some a) (hb : samples[i + 1]? = some b) :
    HeadsAt samples i ⟨a, a.azimuth b⟩
  | onward {i : ℕ} {a b : Point α} (ha : samples[i]? = some a) (hb : samples[i + 1]? = some b)
    (hlast : i + 2 = samples.length) : HeadsAt samples (i + 1) ⟨b, a.azimuth b⟩

/-- Repeating the last element of a list is stopping at it. -/
theorem getElem?_append_getLast? {β : Type} {bs : List β} (hi : i ≤ bs.length) :
    (bs ++ bs.getLast?.toList)[i]? = bs[min i (bs.length - 1)]? := by
  rcases hi.lt_or_eq with hi | rfl
  · rw [List.getElem?_append_left hi, min_eq_left (Nat.le_sub_one_of_lt hi)]
  · rw [List.getElem?_append_right le_rfl, min_eq_right (Nat.sub_le _ _), Nat.sub_self,
      ← List.getLast?_eq_getElem?]
    cases bs.getLast? <;> rfl

/-- Each sample is headed along the edge after it, and the last along the last. -/
theorem getElem?_headed_iff_edge : (headed samples)[i]? = some pose
    ↔ ∃ p a b, samples[i]? = some p ∧ samples[min i (samples.length - 2)]? = some a
      ∧ samples[min i (samples.length - 2) + 1]? = some b ∧ pose = ⟨p, a.azimuth b⟩ := by
  rw [headed, List.getElem?_zipWith_eq_some]
  refine exists_congr fun p => ⟨?_, ?_⟩
  · rintro ⟨yaw, hp, hyaw, rfl⟩
    have hi := (List.getElem?_eq_some_iff.1 hp).1
    rw [getElem?_append_getLast? (by simp; omega), List.length_map, length_consecutive,
      List.getElem?_map, Option.map_eq_some_iff] at hyaw
    obtain ⟨⟨a, b⟩, hedge, rfl⟩ := hyaw
    obtain ⟨ha, hb⟩ := getElem?_consecutive_iff.1 hedge
    exact ⟨a, b, hp, ha, hb, rfl⟩
  · rintro ⟨a, b, hp, ha, hb, rfl⟩
    have hi := (List.getElem?_eq_some_iff.1 hp).1
    refine ⟨_, hp, ?_, rfl⟩
    rw [getElem?_append_getLast? (by simp; omega), List.length_map, length_consecutive,
      List.getElem?_map, Nat.sub_sub, getElem?_consecutive_iff.2 ⟨ha, hb⟩]
    rfl

/-- **The samples are headed like that.** -/
theorem getElem?_headed_iff : (headed samples)[i]? = some pose ↔ HeadsAt samples i pose := by
  rw [getElem?_headed_iff_edge]
  constructor
  · rintro ⟨p, a, b, hp, ha, hb, rfl⟩
    have hi := (List.getElem?_eq_some_iff.1 hp).1
    have hmin := (List.getElem?_eq_some_iff.1 hb).1
    rcases le_or_gt i (samples.length - 2) with hle | hgt
    · rw [min_eq_left hle] at ha hb
      obtain rfl := Option.some.inj (hp.symm.trans ha)
      exact .toward hp hb
    · obtain ⟨k, rfl⟩ := Nat.exists_eq_succ_of_ne_zero (Nat.ne_zero_of_lt hgt)
      have hk : samples.length - 2 = k := by omega
      rw [min_eq_right hgt.le, hk] at ha hb
      obtain rfl := Option.some.inj (hp.symm.trans hb)
      exact .onward ha hb (by omega)
  · intro h
    cases h with
    | @toward i a b ha hb =>
      have hi := (List.getElem?_eq_some_iff.1 hb).1
      have hmin : min i (samples.length - 2) = i := by omega
      exact ⟨a, a, b, ha, hmin.symm ▸ ha, hmin.symm ▸ hb, rfl⟩
    | @onward i a b ha hb hlast =>
      have hmin : min (i + 1) (samples.length - 2) = i := by omega
      exact ⟨b, a, b, hb, hmin.symm ▸ ha, hmin.symm ▸ hb, rfl⟩

/-! ## The first sample that has turned -/

/-- Whether a sample heads about as the line is left. -/
def settled (threshold : α) (exit pose : Pose α) : Bool :=
  Scalar.abs (wrapAngle (pose.yaw - exit.yaw)) < threshold

/-- From two samples on the line is left with some heading. -/
theorem exists_exit (hsamples : 2 ≤ samples.length) :
    ∃ exit, (headed samples).getLast? = some exit := by
  match samples, hsamples with
  | a :: b :: rest, _ =>
    have hfirst : (headed (a :: b :: rest))[0]? = some ⟨a, a.azimuth b⟩ :=
      getElem?_headed_iff.2 (.toward rfl rfl)
    exact Option.isSome_iff_exists.1
      (List.getLast?_isSome.2 (List.ne_nil_of_mem (List.mem_of_getElem? hfirst)))

theorem length_headed (hsamples : 2 ≤ samples.length) :
    (headed samples).length = samples.length := by
  match samples, hsamples with
  | a :: b :: rest, _ => simp [headed, consecutive, List.getLast?_cons]

/-- The points of the poses are the samples. -/
theorem position_mem_of_mem_headed (h : pose ∈ headed samples) : pose.position ∈ samples := by
  obtain ⟨i, hi⟩ := List.mem_iff_getElem?.1 h
  obtain ⟨p, a, b, hp, -, -, rfl⟩ := getElem?_headed_iff_edge.1 hi
  exact List.mem_of_getElem? hp

/-- Of one sample the turn ends there. -/
theorem exists_pose?_eq_of_points_eq (threshold : α) {centerline : List (Point α)} {p : Point α}
    (hcenterline : 2 ≤ centerline.length) (hpoints : points centerline = [p]) :
    ∃ yaw, pose? centerline threshold = some ⟨p, yaw⟩ := by
  match centerline, hcenterline with
  | first :: second :: rest, _ =>
    simp only [pose?, List.getLast?_cons, hpoints]
    exact ⟨_, rfl⟩

/-- Of more it ends at the first settled one. -/
theorem pose?_eq_of_isFirstWith {centerline : List (Point α)} {exit : Pose α}
    (hcenterline : 2 ≤ centerline.length) (hpoints : 2 ≤ (points centerline).length)
    (hexit : (headed (points centerline)).getLast? = some exit)
    (h : IsFirstWith (settled threshold exit) (headed (points centerline)) pose) :
    pose? centerline threshold = some pose := by
  have hfind := find?_eq_some_iff_isFirstWith.2 h
  match centerline, hcenterline with
  | first :: second :: rest, _ =>
    simp only [pose?, List.getLast?_cons]
    match hsamples : points (first :: second :: rest), hpoints with
    | a :: b :: samples, _ =>
      rw [hsamples] at hexit hfind
      simp only [hexit, Option.bind_some]
      exact congrArg (Option.or · (some exit)) hfind

end

variable {α : Type} [ExactScalar α] {length threshold : α} {line : List (Point α)}

/-! ## The arc lengths -/

/-- **A sampling**: from nothing to the whole length, a meter at a time except for the last step. -/
structure IsSampling (length : α) (arcs : List α) : Prop where
  starts : arcs.head? = some 0
  ends : arcs.getLast? = some length
  increasing : arcs.Pairwise (· < ·)
  steps : ∃ step ∈ Set.Ico (1 / 10 : α) (11 / 10),
    (consecutive arcs).map (fun (s, t) => t - s) = List.replicate (arcs.length - 2) 1 ++ [step]

/-- From meter to meter it is a meter. -/
theorem steps_meters (m : ℕ) :
    (consecutive ((List.range (m + 1)).map ((↑) : ℕ → α))).map (fun (s, t) => t - s)
      = List.replicate m 1 := by
  induction m with
  | zero => rfl
  | succ m ih =>
    rw [List.range_succ, List.map_append, List.range_succ, List.map_append, List.append_assoc]
    rw [List.range_succ, List.map_append] at ih
    rw [List.replicate_succ', ← ih]
    simp [consecutive_concat]

/-- **Meters and a last step are a sampling.** -/
theorem isSampling_meters (m : ℕ) (hstep : length - m ∈ Set.Ico (1 / 10 : α) (11 / 10)) :
    IsSampling length ((List.range (m + 1)).map (↑) ++ [length]) where
  starts := by simp [List.range_succ_eq_map]
  ends := List.getLast?_concat
  increasing := by
    have hmeters : ((List.range (m + 1)).map ((↑) : ℕ → α)).Pairwise (· < ·) :=
      List.pairwise_lt_range.map _ fun _ _ => Nat.cast_lt.2
    refine List.pairwise_append.2 ⟨hmeters, List.pairwise_singleton _ _, ?_⟩
    simp only [List.mem_map, List.mem_range, List.mem_singleton]
    rintro _ ⟨k, hk, rfl⟩ _ rfl
    have hkm : (k : α) ≤ m := Nat.cast_le.2 (Nat.le_of_lt_succ hk)
    linarith [hstep.1]
  steps := by
    refine ⟨length - m, hstep, ?_⟩
    have hmeters := steps_meters (α := α) m
    rw [List.range_succ, List.map_append] at hmeters ⊢
    rw [List.append_assoc, List.map_singleton, List.singleton_append, consecutive_concat,
      List.map_append, ← List.map_singleton, hmeters]
    simp

variable [MeasuringScalar α]

theorem sample_eq (k : ℕ) : (sample k : α) = k := by
  have hinterval : (interval : α) = 1 := by
    rw [interval, MeasuringScalar.decimal_eq]
    norm_num
  rw [sample, hinterval, MeasuringScalar.ofCount_eq, mul_one]

/-- **The count stops at the first sample that is not short of the length**, if the fuel lasts. -/
theorem countFrom_spec (fuel k : ℕ) (hshort : ∀ j < k, (j : α) < length)
    (hfuel : length ≤ (k + fuel : ℕ)) :
    (∀ j < countFrom length fuel k, (j : α) < length) ∧ length ≤ countFrom length fuel k := by
  induction fuel generalizing k with
  | zero => exact ⟨hshort, hfuel⟩
  | succ fuel ih =>
    rw [countFrom, sample_eq]
    split_ifs with hk
    · refine ih (k + 1) (fun j hj => ?_) (by rwa [Nat.add_right_comm])
      rcases (Nat.le_of_lt_succ hj).eq_or_lt with rfl | hj
      · exact hk
      · exact hshort j hj
    · exact ⟨hshort, not_lt.1 hk⟩

/-- Below four million kilometers it does. -/
theorem count_spec (hlength : length < 4000000000) :
    (∀ j < countFrom length UInt32.size 0, (j : α) < length)
      ∧ length ≤ countFrom length UInt32.size 0 := by
  refine countFrom_spec _ 0 nofun (hlength.le.trans ?_)
  norm_num [UInt32.size]

theorem overlap_eq : (0.1 : α) = 1 / 10 := by
  rw [MeasuringScalar.decimal_eq]
  norm_num

/-- Less than a tenth of a meter is sampled once, at its end… -/
theorem arcs_of_lt (hlength : length < 1 / 10) : arcs length = [length] := by
  have hcount := (count_spec (hlength.trans (by norm_num))).1
  rw [arcs]
  cases hn : countFrom length UInt32.size 0 with
  | zero => rfl
  | succ last =>
    have hlast : (last : α) < 1 := (hcount last (hn ▸ last.lt_succ_self)).trans
      (hlength.trans (by norm_num))
    obtain rfl : last = 0 := Nat.lt_one_iff.1 (by exact_mod_cast hlast)
    have hkept : length - sample 0 < (0.1 : α) := by
      rwa [sample_eq, overlap_eq, Nat.cast_zero, sub_zero]
    simp only [if_pos hkept]
    rfl

/-- …and more at every meter but one too close to the end. -/
theorem exists_arcs_eq (hge : 1 / 10 ≤ length) (hlength : length < 4000000000) :
    ∃ m : ℕ, arcs length = (List.range (m + 1)).map (↑) ++ [length]
      ∧ length - m ∈ Set.Ico (1 / 10 : α) (11 / 10) := by
  obtain ⟨hshort, hreached⟩ := count_spec hlength
  have hsample : (sample : ℕ → α) = (↑) := funext sample_eq
  rw [arcs, hsample, overlap_eq]
  cases hn : countFrom length UInt32.size 0 with
  | zero =>
    rw [hn, Nat.cast_zero] at hreached
    linarith
  | succ last =>
    have hlast : (last : α) < length := hshort last (hn ▸ last.lt_succ_self)
    rw [hn, Nat.cast_succ] at hreached
    by_cases hclose : length - last < 1 / 10
    · -- the first meter is not too close, so there is one before
      obtain ⟨m, rfl⟩ : ∃ m, last = m + 1 := by
        refine Nat.exists_eq_succ_of_ne_zero ?_
        rintro rfl
        rw [Nat.cast_zero, sub_zero] at hclose
        exact hclose.not_ge hge
      refine ⟨m, by simp only [if_pos hclose], ?_, ?_⟩ <;> push_cast at * <;> linarith
    · exact ⟨last, by simp only [if_neg hclose], not_lt.1 hclose, by linarith⟩

/-- **The arc lengths are a sampling** from a tenth of a meter on. -/
theorem isSampling_arcs (hge : 1 / 10 ≤ length) (hlength : length < 4000000000) :
    IsSampling length (arcs length) := by
  obtain ⟨m, harcs, hstep⟩ := exists_arcs_eq hge hlength
  rw [harcs]
  exact isSampling_meters m hstep

/-! ## The end of the turn -/

/-- **The samples are points of the line.** -/
theorem through_of_mem_points (hresolved : Polyline.IsResolved line)
    (hline : line.length ≠ 1) {p : Point α} (h : p ∈ points line) : Polyline.Through line p := by
  obtain ⟨s, -, hs⟩ := List.mem_filterMap.1 h
  exact Polyline.through_of_at? hresolved hline hs

theorem settled_self (hthreshold : 0 < threshold) (exit : Pose α) :
    settled threshold exit exit = true := by
  rw [settled, sub_self, wrapAngle_zero, Scalar.abs, if_neg (lt_irrefl 0)]
  exact decide_eq_true hthreshold

/-- **Some sample heads as the last does**, for the last does. -/
theorem exists_isFirstWith_settled (hthreshold : 0 < threshold)
    {poses : List (Pose α)} {exit : Pose α} (hexit : poses.getLast? = some exit) :
    ∃ pose, IsFirstWith (settled threshold exit) poses pose := by
  have hmem : exit ∈ poses := List.mem_of_getLast? hexit
  have hsome : (poses.find? (settled threshold exit)).isSome = true :=
    List.find?_isSome.2 ⟨exit, hmem, settled_self hthreshold exit⟩
  obtain ⟨pose, hpose⟩ := Option.isSome_iff_exists.1 hsome
  exact ⟨pose, find?_eq_some_iff_isFirstWith.1 hpose⟩

end TurnEnd

/-- **The end of a turn is found on the centerline.**  The centerline needs two points at least, its
edges have a length that counts or none at all, and it is shorter than four million kilometers.
Then some pose is found, at a sample; the samples are at the sampled arc lengths.  From a tenth of
a meter on these go from the start to the end, a meter at a time except for the last step, and the
pose is that of the first sample whose heading is within the threshold of the last one's.  On less,
it is at the end of the centerline. -/
theorem turn_end_found {α : Type} [ExactScalar α] [MeasuringScalar α] (centerline : List (Point α))
    (threshold : α) (hcenterline : 2 ≤ centerline.length)
    (hresolved : Polyline.IsResolved centerline)
    (hlength : Polyline.length centerline < 4000000000) (hthreshold : 0 < threshold) :
    let length := Polyline.length centerline
    let arcs := TurnEnd.arcs length
    let points := TurnEnd.points centerline
    let poses := TurnEnd.headed points
    points.map some = arcs.map (Polyline.at? centerline)
      ∧ (∀ i pose, poses[i]? = some pose ↔ TurnEnd.HeadsAt points i pose)
      ∧ ∃ pose, TurnEnd.pose? centerline threshold = some pose
        ∧ Polyline.Through centerline pose.position
        ∧ (1 / 10 ≤ length → TurnEnd.IsSampling length arcs
          ∧ ∃ exit, poses.getLast? = some exit
            ∧ IsFirstWith (TurnEnd.settled threshold exit) poses pose)
        ∧ (length < 1 / 10 → centerline.getLast? = some pose.position) := by
  intro length arcs points poses
  have hsingle : centerline.length ≠ 1 := (Nat.lt_of_succ_le hcenterline).ne'
  have hmap : points.map some = arcs.map (Polyline.at? centerline) :=
    TurnEnd.map_some_points (List.ne_nil_of_length_pos (Nat.zero_lt_of_lt hcenterline))
  refine ⟨hmap, fun i pose => TurnEnd.getElem?_headed_iff, ?_⟩
  rcases lt_or_ge length (1 / 10) with hlt | hge
  · have harcs : arcs = [length] := TurnEnd.arcs_of_lt hlt
    have hend : points.map some = [centerline.getLast?] := by
      rw [hmap, harcs, List.map_singleton, Polyline.at?_length hresolved]
    obtain ⟨p, hpoints, hlast⟩ := List.map_eq_singleton_iff.1 hend
    obtain ⟨yaw, hpose⟩ := TurnEnd.exists_pose?_eq_of_points_eq threshold hcenterline hpoints
    exact ⟨⟨p, yaw⟩, hpose, Polyline.through_of_mem hsingle (List.mem_of_getLast? hlast.symm),
      fun hge => absurd hlt hge.not_gt, fun _ => hlast.symm⟩
  · obtain ⟨m, harcs, -⟩ := TurnEnd.exists_arcs_eq hge hlength
    have hpoints : 2 ≤ points.length := by
      have hcount : points.length = arcs.length := by simpa using congrArg List.length hmap
      have harcs : arcs.length = m + 2 := by simpa using congrArg List.length harcs
      omega
    obtain ⟨exit, hexit⟩ := TurnEnd.exists_exit hpoints
    obtain ⟨pose, hpose⟩ := TurnEnd.exists_isFirstWith_settled hthreshold hexit
    refine ⟨pose, TurnEnd.pose?_eq_of_isFirstWith hcenterline hpoints hexit hpose, ?_,
      fun _ => ⟨TurnEnd.isSampling_arcs hge hlength, exit, hexit, hpose⟩,
      fun hlt => absurd hlt hge.not_gt⟩
    exact TurnEnd.through_of_mem_points hresolved hsingle
      (TurnEnd.position_mem_of_mem_headed
        (List.mem_of_find?_eq_some (find?_eq_some_iff_isFirstWith.2 hpose)))

/-- A way of five meters to the left, a stop on the spot and five centimeters straight ahead: too
little for a sample of its own, so the one at five meters gives way to the end. -/
theorem short_exit_found :
    let centerline : List (Point ℚ) := [⟨0, 0⟩, ⟨3, 4⟩, ⟨3, 4⟩, ⟨3, 4 + 1 / 20⟩]
    2 ≤ centerline.length ∧ Polyline.IsResolved centerline
      ∧ Polyline.length centerline < 4000000000 ∧ (0 : ℚ) < 1 / 4
      ∧ TurnEnd.arcs (Polyline.length centerline) = [0, 1, 2, 3, 4, 101 / 20]
      ∧ TurnEnd.IsSampling (101 / 20) [0, 1, 2, 3, 4, (101 / 20 : ℚ)]
      ∧ ∃ pose, TurnEnd.pose? centerline (1 / 4) = some pose
        ∧ Polyline.Through centerline pose.position := by
  intro centerline
  have hpoints : 2 ≤ centerline.length := by decide
  have hresolved : Polyline.IsResolved centerline := by decide +kernel
  have hlength : Polyline.length centerline = 101 / 20 := by decide +kernel
  have hbound : Polyline.length centerline < 4000000000 := by decide +kernel
  have hthreshold : (0 : ℚ) < 1 / 4 := by decide +kernel
  have hge : 1 / 10 ≤ Polyline.length centerline := by decide +kernel
  have harcs : TurnEnd.arcs (Polyline.length centerline) = [0, 1, 2, 3, 4, 101 / 20] := by
    decide +kernel
  obtain ⟨-, -, pose, hpose, hthrough, hsampled, -⟩ :=
    turn_end_found centerline (1 / 4) hpoints hresolved hbound hthreshold
  have hsampling := (hsampled hge).1
  rw [harcs, hlength] at hsampling
  exact ⟨hpoints, hresolved, hbound, hthreshold, harcs, hsampling, pose, hpose, hthrough⟩

end DriveDecision
