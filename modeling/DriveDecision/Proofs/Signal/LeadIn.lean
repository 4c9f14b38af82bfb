import DriveDecision.Proofs.Road.ArcLength
import DriveDecision.Proofs.Signal.Swerving

/-!
# Proofs/Signal/LeadIn — where the blinker for a shift may come on, and where it must

              lead          start                stop
    path  ─────┼──────────────┼────────────────────┼─────
               │              └───── required ─────┤
               └───────────── desired ─────────────┘

A signalled shift is required along its own span.  It may be signalled a margin earlier, but not
before the path, as long as the front of the vehicle is short of it (`ShiftRequest.lead`).  Both
ends have to be on the path, but nothing asks for their order: a shift that is planned backward is
signalled as well, and then not even its start is in its span (`backward_shift_outside`).
-/

namespace DriveDecision

namespace ShiftRequest

variable {α : Type} [ExactScalar α] {request : ShiftRequest α} {settings : SignalSettings α}
  {vehicle : Vehicle α} {net : Network α} {c : Candidate α}

/-- **Where the blinker may come on**, as an arc length of the path. -/
def lead (request : ShiftRequest α) (settings : SignalSettings α) (vehicle : Vehicle α) : α :=
  let start := request.path.arcLengthTo request.shift.startIndex
  if 0 < request.aheadOfStart vehicle then max 0 (start - settings.desiredLeadMargin) else start

section

variable (hepsilon : (0 : α) ≤ Scalar.epsilon) (hresolved : request.path.IsResolved)
  (hmargin : 0 ≤ settings.desiredLeadMargin)

include hepsilon hresolved hmargin

theorem lead_le_start :
    request.lead settings vehicle ≤ request.path.arcLengthTo request.shift.startIndex := by
  simp only [lead]
  split_ifs
  · exact max_le (Path.arcLengthTo_nonneg hepsilon hresolved) (sub_le_self _ hmargin)
  · exact le_rfl

/-- **The desired span of a signalled shift begins at the lead.** -/
theorem reaches_lead (h : request.verdict settings vehicle net = .signalled c) :
    request.path.Reaches (request.lead settings vehicle) c.desiredStart.position := by
  obtain ⟨first, last, hfirst, -, rfl⟩ := eq_candidate_of_signalled h
  simp only [candidate, lead]
  split_ifs
  · set s := request.path.arcLengthTo request.shift.startIndex - settings.desiredLeadMargin
    have hle : s ≤ request.path.totalLength :=
      (sub_le_self _ hmargin).trans (Path.arcLengthTo_le_totalLength hepsilon hresolved)
    have hsome : request.path.poseAt? s ≠ none := by
      rw [Ne, Path.poseAt?_eq_none_iff]
      intro hnone
      rw [hnone] at hfirst
      cases hfirst
    obtain ⟨pose, hpose⟩ := Option.ne_none_iff_exists'.1 hsome
    rw [hpose]
    exact Path.reaches_poseAt? hepsilon hresolved hpose hle
  · exact .vertex hfirst

end

end ShiftRequest

/-- **The spans of a signalled shift are nested.**  It is required between two points of the path
and desired up to the second of them, from the lead on, which does not lie after the first.  Unless
the shift is planned backward, its start is in the desired span. -/
theorem shift_spans_nested {α : Type} [ExactScalar α] (request : ShiftRequest α)
    (settings : SignalSettings α) (vehicle : Vehicle α) (net : Network α)
    (hepsilon : (0 : α) ≤ Scalar.epsilon) (hresolved : request.path.IsResolved)
    (hmargin : 0 ≤ settings.desiredLeadMargin)
    (hblinks : (request.verdict settings vehicle net).signal.candidate.turn = .left
      ∨ (request.verdict settings vehicle net).signal.candidate.turn = .right) :
    let c := (request.verdict settings vehicle net).signal.candidate
    let path := request.path
    let shift := request.shift
    let start := path.arcLengthTo shift.startIndex
    let stop := path.arcLengthTo shift.endIndex
    let lead := request.lead settings vehicle
    (∃ first last, path.points[shift.startIndex]? = some first
        ∧ path.points[shift.endIndex]? = some last
        ∧ c.requiredStart = first.pose ∧ c.requiredEnd = last.pose ∧ c.desiredEnd = last.pose)
      ∧ path.Reaches lead c.desiredStart.position ∧ lead ≤ start
      ∧ Set.Icc start stop ⊆ Set.Icc lead stop
      ∧ (shift.startIndex ≤ shift.endIndex → start ∈ Set.Icc lead stop) := by
  obtain ⟨signal, hsignal⟩ := ShiftRequest.signalled_of_blinks hblinks
  rw [hsignal]
  intro c path shift start stop lead
  have hlead : lead ≤ start := ShiftRequest.lead_le_start hepsilon hresolved hmargin
  refine ⟨?_, ShiftRequest.reaches_lead hepsilon hresolved hmargin hsignal, hlead,
    Set.Icc_subset_Icc_left hlead, fun hforward => ⟨hlead, ?_⟩⟩
  · obtain ⟨first, last, hfirst, hlast, rfl⟩ := ShiftRequest.eq_candidate_of_signalled hsignal
    exact ⟨first, last, hfirst, hlast, rfl, rfl, rfl⟩
  · exact Path.arcLengthTo_mono hepsilon hresolved hforward

/-- A road with a lane to the left. -/
def Network.twoLanes {α : Type} [Scalar α] : Network α := Network.oneLane.setLeftNeighbor 10 11

/-- With ego eight meters in, a shift from twenty to thirty meters may be signalled at fifteen. -/
theorem leftward_spans_nested :
    let request : ShiftRequest ℚ := .leftward 2 3
    let settings : SignalSettings ℚ := .standard
    let c := (request.verdict settings .standard .twoLanes).signal.candidate
    (0 : ℚ) ≤ Scalar.epsilon ∧ request.path.IsResolved ∧ 0 ≤ settings.desiredLeadMargin
      ∧ c.turn = .left ∧ request.path.Reaches 15 c.desiredStart.position
      ∧ (20 : ℚ) ∈ Set.Icc (15 : ℚ) 30 := by
  intro request settings c
  have hepsilon : (0 : ℚ) ≤ Scalar.epsilon := by decide +kernel
  have hresolved : request.path.IsResolved := by decide +kernel
  have hmargin : 0 ≤ settings.desiredLeadMargin := by decide +kernel
  have hturn : c.turn = .left := by decide +kernel
  have hlead : request.lead settings .standard = 15 := by decide +kernel
  have hstart : request.path.arcLengthTo request.shift.startIndex = 20 := by decide +kernel
  have hstop : request.path.arcLengthTo request.shift.endIndex = 30 := by decide +kernel
  obtain ⟨-, hreaches, -, -, hmem⟩ := shift_spans_nested request settings .standard .twoLanes
    hepsilon hresolved hmargin (Or.inl hturn)
  rw [hlead] at hreaches
  rw [hlead, hstart, hstop] at hmem
  exact ⟨hepsilon, hresolved, hmargin, hturn, hreaches, hmem (by decide)⟩

/-- **A shift that is planned backward does not contain its own start**: from twenty meters to ten,
it is signalled from fifteen on, up to ten. -/
theorem backward_shift_outside :
    let request : ShiftRequest ℚ := .leftward 2 1
    let settings : SignalSettings ℚ := .standard
    let c := (request.verdict settings .standard .twoLanes).signal.candidate
    request.isForward = true ∧ request.path.IsResolved ∧ 0 ≤ settings.desiredLeadMargin
      ∧ c.turn = .left ∧ c.desiredStart.position = ⟨15, 0⟩ ∧ c.desiredEnd.position = ⟨10, 0⟩
      ∧ c.requiredStart.position = ⟨20, 0⟩
      ∧ request.path.arcLengthTo request.shift.startIndex ∉ Set.Icc
        (request.lead settings .standard) (request.path.arcLengthTo request.shift.endIndex) := by
  decide +kernel

end DriveDecision
