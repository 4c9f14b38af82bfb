import DriveDecision.Number.Double
import DriveDecision.Proofs.Signal.Cycles
import DriveDecision.Signal.Swerve

/-!
# Proofs/Signal/Swerving — the vetoes only suppress

    a shift ──judged without vetoes──▸ signalled ──vetoed?──▸ signalled, as it is
                    │                     └─────────────────▸ nothing, and ignored
                    └─────▸ anything else stays what it is

`ShiftRequest.verdict_eq_review` splits the judgement in two: the first half asks the map for
nothing but where the route started, and the second half passes a candidate or drops it.  A map with
more neighbors (`Network.IsWidenedTo`) drops no more of them.
-/

namespace DriveDecision

variable {α : Type}

/-! ## Maps with more neighbors -/

namespace Network

/-- **A map with more neighbors**: it has the same lanes and the same route, and a lane on every
side where there was one. -/
structure IsWidenedTo (net wider : Network α) : Prop where
  lanes : ∀ id, wider.lane? id = net.lane? id
  route : wider.route = net.route
  left : ∀ id, net.hasLeft id = true → wider.hasLeft id = true
  right : ∀ id, net.hasRight id = true → wider.hasRight id = true

theorem isSome_lookup_cons {β : Type} {id key : LaneId} {b : β} {table : LaneTable β}
    (h : (table.lookup id).isSome = true) : (((key, b) :: table).lookup id).isSome = true := by
  rw [List.lookup_cons]
  split
  · rfl
  · exact h

variable {net wider : Network α} {id other : LaneId}

theorem isWidenedTo_setLeftNeighbor : net.IsWidenedTo (net.setLeftNeighbor id other) := by
  refine ⟨fun _ => rfl, rfl, fun id h => ?_, fun id h => ?_⟩
  · simp only [hasLeft, Bool.or_eq_true] at h ⊢
    exact h.imp_left isSome_lookup_cons
  · simp only [hasRight, Bool.or_eq_true] at h ⊢
    exact h.imp_left isSome_lookup_cons

theorem isWidenedTo_addLeftOpposite : net.IsWidenedTo (net.addLeftOpposite id other) := by
  refine ⟨fun _ => rfl, rfl, fun id h => ?_, fun _ h => h⟩
  simp only [hasLeft, Bool.or_eq_true] at h ⊢
  exact h.imp_right isSome_lookup_cons

theorem isWidenedTo_addRightOpposite : net.IsWidenedTo (net.addRightOpposite id other) := by
  refine ⟨fun _ => rfl, rfl, fun _ h => h, fun id h => ?_⟩
  simp only [hasRight, Bool.or_eq_true] at h ⊢
  exact h.imp_right isSome_lookup_cons

namespace IsWidenedTo

theorem lane?_eq (h : net.IsWidenedTo wider) : wider.lane? = net.lane? := funext h.lanes

/-- The same lane of the route is the closest. -/
theorem closestOnRoute?_eq [Scalar α] (h : net.IsWidenedTo wider) (p : Point α) :
    wider.closestOnRoute? p = net.closestOnRoute? p := by
  simp only [closestOnRoute?, routeLanes, h.route, h.lane?_eq]

end IsWidenedTo

end Network

variable [Scalar α]

/-- **More lanes beside never take the side lane away.** -/
theorem ShiftKind.hasSideLane_mono {kind : ShiftKind} {relative : α}
    {hasLeft hasRight hasLeft' hasRight' : Bool} (hleft : hasLeft = true → hasLeft' = true)
    (hright : hasRight = true → hasRight' = true)
    (h : kind.hasSideLane relative hasLeft hasRight = true) :
    kind.hasSideLane relative hasLeft' hasRight' = true := by
  cases kind <;> simp only [hasSideLane, Bool.and_eq_true, Bool.not_eq_true', Bool.and_eq_false_iff,
    Bool.not_eq_false'] at h ⊢
  case avoid => exact ⟨h.1.imp_right hleft, h.2.imp_right hright⟩
  case rejoin => exact ⟨h.1.imp_right hright, h.2.imp_right hleft⟩
  case leftMiddle => exact h.imp_right hleft
  case rightMiddle => exact h.imp_right hright

/-! ## Verdicts -/

namespace SwerveVerdict

/-- A verdict that signals is looked at again, and any other one stays. -/
def review (again : Candidate α → SwerveVerdict α) : SwerveVerdict α → SwerveVerdict α
  | signalled c => again c
  | verdict => verdict

/-- **Whoever is to drop a signal gets no other.** -/
theorem candidate_of_isIgnored {verdict : SwerveVerdict α} (h : verdict.signal.isIgnored = true) :
    verdict.signal.candidate = .none := by
  cases verdict with
  | reversing | outOfPath | early | signalled => cases h
  | _ => rfl

end SwerveVerdict

namespace ShiftRequest

variable {request : ShiftRequest α} {settings : SignalSettings α} {vehicle : Vehicle α}
  {net wider : Network α} {c : Candidate α}

/-- How far the shift moves ego, in its own frame. -/
def relative (request : ShiftRequest α) : α := request.lengths.2 - request.lengths.1

/-- The kind of the shift in ego's frame. -/
def kind (request : ShiftRequest α) (settings : SignalSettings α) : ShiftKind :=
  .of request.lengths.1 request.lengths.2 settings.shiftThreshold

/-! ### The vetoes -/

section

variable {kind : ShiftKind} {relative : α}

variable (request vehicle net kind relative c) in
/-- The vetoes pass a candidate or drop it. -/
theorem vetoed_cases : request.vetoed vehicle net kind relative c = .signalled c
    ∨ (request.vetoed vehicle net kind relative c).signal = ⟨.none, true⟩ := by
  simp only [vetoed]
  split
  · exact Or.inr rfl
  · split_ifs
    · exact Or.inr rfl
    · exact Or.inl rfl
    · exact Or.inr rfl

theorem eq_of_vetoed {d : Candidate α}
    (h : request.vetoed vehicle net kind relative d = .signalled c) : d = c := by
  rcases request.vetoed_cases vehicle net d kind relative with hpassed | hdropped
  · exact SwerveVerdict.signalled.inj (hpassed.symm.trans h)
  · rw [h] at hdropped
    cases hdropped

/-- **A map with more neighbors passes what passed before.** -/
theorem vetoed_of_isWidenedTo (h : net.IsWidenedTo wider)
    (hpassed : request.vetoed vehicle net kind relative c = .signalled c) :
    request.vetoed vehicle wider kind relative c = .signalled c := by
  simp only [vetoed, h.closestOnRoute?_eq, h.lane?_eq] at hpassed ⊢
  split at hpassed
  · cases hpassed
  · rename_i id hid
    split_ifs at hpassed with hside hclear
    have hwide := ShiftKind.hasSideLane_mono (h.left id) (h.right id) hside
    simp only [hwide, if_true, if_neg hclear]

end

/-! ### The judgement -/

/-- The verdict without the vetoes. -/
def unvetoed (request : ShiftRequest α) (settings : SignalSettings α) (vehicle : Vehicle α)
    (net : Network α) : SwerveVerdict α :=
  request.verdict { settings with onSwerving := false } vehicle net

/-- Driving backward, there is always something to show. -/
theorem verdict_of_backward (h : request.isForward = false) :
    request.verdict settings vehicle net = .reversing (request.backward net.start) := by
  simp [verdict, h]

/-- **Judging is judging without the vetoes, and then reviewing.** -/
theorem verdict_eq_review : request.verdict settings vehicle net
    = (request.unvetoed settings vehicle net).review fun c =>
      if settings.onSwerving then
        request.vetoed vehicle net (request.kind settings) request.relative c
      else .signalled c := by
  simp only [unvetoed, verdict, Bool.false_eq_true, if_false]
  split
  · rfl
  · split
    · split_ifs <;> rfl
    · rfl

variable (net wider) in
/-- Without the vetoes, the map does not matter as long as ego drives forward. -/
theorem unvetoed_congr (h : request.isForward = true) :
    request.unvetoed settings vehicle wider = request.unvetoed settings vehicle net := by
  simp [unvetoed, verdict, h]

/-- What is signalled with the vetoes would be without them. -/
theorem unvetoed_of_signalled (h : request.verdict settings vehicle net = .signalled c) :
    request.unvetoed settings vehicle net = .signalled c := by
  rw [verdict_eq_review] at h
  cases hfree : request.unvetoed settings vehicle net with
  | signalled d =>
    rw [hfree, SwerveVerdict.review] at h
    split_ifs at h
    · rw [eq_of_vetoed h]
    · exact h
  | _ =>
    rw [hfree] at h
    exact h

/-- **What is signalled** is the candidate between the two ends of the shift, and both are on the
path. -/
theorem eq_candidate_of_signalled (h : request.verdict settings vehicle net = .signalled c) :
    ∃ first last, request.path.points[request.shift.startIndex]? = some first
      ∧ request.path.points[request.shift.endIndex]? = some last
      ∧ c = request.candidate settings request.relative (request.aheadOfStart vehicle) first.pose
        last.pose := by
  have hfree := unvetoed_of_signalled h
  simp only [unvetoed, verdict, Bool.false_eq_true, if_false] at hfree
  split at hfree
  · cases hfree
  · split at hfree
    · rename_i first last hfirst hlast
      split_ifs at hfree
      cases hfree
      exact ⟨first, last, hfirst, hlast, rfl⟩
    · cases hfree

/-- A signalled shift blinks. -/
theorem turn_of_signalled (h : request.verdict settings vehicle net = .signalled c) :
    c.turn = .left ∨ c.turn = .right := by
  obtain ⟨first, last, -, -, rfl⟩ := eq_candidate_of_signalled h
  exact ite_eq_or_eq _ _ _

/-- Driving backward, it is the hazard lights that are on. -/
theorem turn_of_reversing (h : request.verdict settings vehicle net = .reversing c) :
    c.turn = .noCommand := by
  cases hforward : request.isForward with
  | false =>
    cases (verdict_of_backward hforward).symm.trans h
    rfl
  | true =>
    simp only [verdict, hforward, Bool.not_true, Bool.false_eq_true, if_false] at h
    split at h
    · split_ifs at h
      rcases request.vetoed_cases vehicle net _ _ _ with hpassed | hdropped
      · cases hpassed.symm.trans h
      · rw [h] at hdropped
        cases hdropped
    · cases h

/-- What blinks has been signalled. -/
theorem signalled_of_blinks
    (h : (request.verdict settings vehicle net).signal.candidate.turn = .left
      ∨ (request.verdict settings vehicle net).signal.candidate.turn = .right) :
    ∃ c, request.verdict settings vehicle net = .signalled c := by
  cases hverdict : request.verdict settings vehicle net with
  | signalled c => exact ⟨c, rfl⟩
  | reversing c =>
    rw [hverdict] at h
    have hnone := turn_of_reversing hverdict
    simp [SwerveVerdict.signal, hnone] at h
  | _ =>
    rw [hverdict] at h
    rcases h with h | h <;> cases h

variable (request settings vehicle net) in
/-- **With the vetoes, a shift gets what it would get without them, or nothing.** -/
theorem signal_eq_or_dropped :
    let free := (request.unvetoed settings vehicle net).signal
    (request.verdict settings vehicle net).signal = free
      ∨ (request.verdict settings vehicle net).signal = ⟨.none, true⟩
        ∧ (free.candidate.turn = .left ∨ free.candidate.turn = .right) := by
  rw [verdict_eq_review]
  cases hfree : request.unvetoed settings vehicle net with
  | signalled c =>
    rw [SwerveVerdict.review]
    split_ifs
    · exact (request.vetoed_cases vehicle net c _ _).imp (congrArg _) (⟨·, turn_of_signalled hfree⟩)
    · exact Or.inl rfl
  | _ => exact Or.inl rfl

/-- **More neighbors change nothing for a shift that gets something.** -/
theorem verdict_of_isWidenedTo (hwider : net.IsWidenedTo wider)
    (hforward : request.isForward = true)
    (hsome : (request.verdict settings vehicle net).signal.candidate.isEmpty = false) :
    request.verdict settings vehicle wider = request.verdict settings vehicle net := by
  rw [verdict_eq_review] at hsome
  rw [verdict_eq_review, verdict_eq_review, unvetoed_congr net wider hforward]
  cases hfree : request.unvetoed settings vehicle net with
  | signalled c =>
    rw [hfree] at hsome
    simp only [SwerveVerdict.review] at hsome ⊢
    split_ifs at hsome ⊢ with hvetoing
    · rcases request.vetoed_cases vehicle net c (request.kind settings) request.relative with
        hpassed | hdropped
      · rw [hpassed, vetoed_of_isWidenedTo hwider hpassed]
      · rw [hdropped] at hsome
        cases hsome
    · rfl
  | _ => rfl

/-- …so it still gets something, forward or backward. -/
theorem isEmpty_of_isWidenedTo (hwider : net.IsWidenedTo wider)
    (hsome : (request.verdict settings vehicle net).signal.candidate.isEmpty = false) :
    (request.verdict settings vehicle wider).signal.candidate.isEmpty = false := by
  cases hforward : request.isForward with
  | true => rwa [verdict_of_isWidenedTo hwider hforward hsome]
  | false =>
    rw [verdict_of_backward hforward]
    rfl

end ShiftRequest

/-- **The vetoes only suppress.**  Judged with the vetoes, a shift gets what it would get without
them, or nothing; and nothing, with the mark to drop what is carried over, only in place of a
blinker to the left or the right.  Whatever is so marked is nothing.  And what gets something still
does so on a map with more neighbors. -/
theorem vetoes_only_suppress {α : Type} [Scalar α] (request : ShiftRequest α)
    (settings : SignalSettings α) (vehicle : Vehicle α) (net : Network α) :
    let result := fun (isVetoing : Bool) (net : Network α) =>
      (request.verdict { settings with onSwerving := isVetoing } vehicle net).signal
    (result true net = result false net
        ∨ result true net = ⟨.none, true⟩
          ∧ ((result false net).candidate.turn = .left
            ∨ (result false net).candidate.turn = .right))
      ∧ ∀ isVetoing,
        ((result isVetoing net).isIgnored = true → (result isVetoing net).candidate = .none)
          ∧ ∀ wider, net.IsWidenedTo wider →
            (result isVetoing net).candidate.isEmpty = false →
              (result isVetoing wider).candidate.isEmpty = false := by
  intro result
  refine ⟨?_, fun isVetoing => ⟨SwerveVerdict.candidate_of_isIgnored, fun wider hwider => ?_⟩⟩
  · exact request.signal_eq_or_dropped { settings with onSwerving := true } vehicle net
  · exact ShiftRequest.isEmpty_of_isWidenedTo hwider

/-- Ego at eight meters, on lane 10 of forty meters of straight road with a point every ten, with a
shift to the left between two of them. -/
def ShiftRequest.leftward {α : Type} [Scalar α] (first last : Nat) : ShiftRequest α where
  path := ⟨[0.0, 10.0, 20.0, 30.0, 40.0].map fun x => ⟨⟨⟨x, 0⟩, 0⟩, [10]⟩⟩
  shift := ⟨first, last, 0, 1⟩
  lanes := []
  pose := ⟨⟨8.0, 0⟩, 0⟩
  speed := 5.0
  currentLength := 0

/-- A road of one lane. -/
def Network.oneLane {α : Type} [Scalar α] : Network α :=
  (Network.empty.insert
    (.between 10 [⟨-10.0, 2.0⟩, ⟨60.0, 2.0⟩] [⟨-10.0, -2.0⟩, ⟨60.0, -2.0⟩] .none)).setRoute [10]
      .origin

/-- On a road of one lane the shift is vetoed; with a lane to the left it is not, and a lane of
opposite direction on the right does not change that. -/
theorem leftward_suppressed :
    let request : ShiftRequest Float := .leftward 2 3
    let settings : SignalSettings Float := .standard
    let result := fun (isVetoing : Bool) (net : Network Float) =>
      (request.verdict { settings with onSwerving := isVetoing } .standard net).signal
    let alone : Network Float := .oneLane
    let beside := alone.setLeftNeighbor 10 11
    let wider := beside.addRightOpposite 10 12
    (result true alone).isIgnored = true ∧ (result true alone).candidate = .none
      ∧ (result false alone).candidate.turn = .left
      ∧ beside.IsWidenedTo wider ∧ (result true beside).candidate.turn = .left
      ∧ (result true wider).candidate.isEmpty = false := by
  intro request settings result alone beside wider
  have hwider : beside.IsWidenedTo wider := Network.isWidenedTo_addRightOpposite
  have hignored : (result true alone).isIgnored = true := by decide +kernel
  have hbeside : (result true beside).candidate.isEmpty = false := by decide +kernel
  obtain ⟨-, halone⟩ := vetoes_only_suppress request settings .standard alone
  obtain ⟨-, hmore⟩ := vetoes_only_suppress request settings .standard beside
  exact ⟨hignored, (halone true).1 hignored, by decide +kernel, hwider, by decide +kernel,
    (hmore true).2 wider hwider hbeside⟩

end DriveDecision
