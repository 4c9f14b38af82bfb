import DriveDecision.Number.Double
import DriveDecision.Signal.Cycle
import Mathlib.Data.List.TakeWhile

/-!
# Proofs/Signal/Cycles — what a cycle emits, and what it leaves behind

    no path ────────────▸ nothing, and no hold
    a sustained hold ───▸ its command, and the same hold
    otherwise ──────────▸ the verdict, and the hold that starts with it

`SignalArbiter.cycled` is the one place where a cycle is opened.  `induction_of_sustained` carries a
fact about what is remembered through the cycles of a run that sustain a hold.
-/

namespace DriveDecision

variable {α : Type} [Scalar α]

omit [Scalar α] in
/-- A candidate of either kind asks for a blinker. -/
def Decision.isRequested (decision : Decision α) : Bool :=
  decision.behavior.turn.isEnabled || decision.intersection.any (·.turn.isEnabled)

namespace Ego

variable {ego : Ego α} {inter : Option (Candidate α)} {beh w : Candidate α}

/-- The winner is one of the two, and its command is the verdict. -/
theorem winner_weigh (h : (ego.weigh inter beh).winner = some w) :
    (w = beh ∨ inter = some w) ∧ (ego.weigh inter beh).turn = w.turn := by
  rcases inter with _ | c
  · obtain rfl : beh = w := Option.some.inj h
    exact ⟨Or.inl rfl, rfl⟩
  · revert h
    simp only [weigh, forIntersection]
    split
    · intro h
      obtain rfl : c = w := Option.some.inj h
      exact ⟨Or.inr rfl, rfl⟩
    · split
      · intro h
        obtain rfl : c = w := Option.some.inj h
        exact ⟨Or.inr rfl, rfl⟩
      · intro h
        obtain rfl : beh = w := Option.some.inj h
        exact ⟨Or.inl rfl, rfl⟩
      · exact fun h => absurd h (Option.some_ne_none w).symm
      · exact fun h => absurd h (Option.some_ne_none w).symm

/-- **What starts a hold.** -/
theorem newHold_eq_some_iff {verdict : Verdict α} {hold : HeldSignal α} :
    ego.newHold verdict = some hold ↔ ∃ w, verdict.winner = some w ∧ verdict.turn = hold.command
      ∧ w.turn = hold.command ∧ hold.command.isEnabled = true ∧ w.requiredEnd = hold.requiredEnd
      ∧ (ego.spanOf w).requiredStart ≤ 0 ∧ 0 ≤ (ego.spanOf w).requiredEnd := by
  obtain ⟨command, stop⟩ := hold
  simp only [newHold, Option.bind_eq_some_iff, Option.ite_none_right_eq_some, Option.some.injEq,
    HeldSignal.mk.injEq, Bool.and_eq_true, beq_iff_eq, SpanDistances.withinRequired,
    decide_eq_true_eq]
  constructor
  · rintro ⟨w, hwinner, ⟨⟨henabled, hturn⟩, hstart, hend⟩, rfl, rfl⟩
    exact ⟨w, hwinner, rfl, hturn, henabled, rfl, hstart, hend⟩
  · rintro ⟨w, hwinner, rfl, hturn, henabled, rfl, hstart, hend⟩
    exact ⟨w, hwinner, ⟨⟨henabled, hturn⟩, hstart, hend⟩, rfl, rfl⟩

end Ego

namespace SignalArbiter

variable (arbiter : SignalArbiter α) (state : SignalState α) (input : CycleInput α)

/-- Ego in a cycle.  On an empty path it is nowhere, and the segment means nothing. -/
def egoOn : Ego α :=
  arbiter.ego input.path input.pose
    ((input.path.locate? arbiter.settings.nearest input.pose).getD 0)

/-- **What arbitration arrives at** in a cycle, before any hold. -/
def verdict : Verdict α :=
  (arbiter.egoOn input).weigh (arbiter.cycle state input).decision.intersection input.behavior

/-- **What a hold up to `stop` needs to go on**: a path, a request, and ego not past its end. -/
structure Sustains (stop : Pose α) : Prop where
  path : input.path.points ≠ []
  requested : (arbiter.cycle state input).decision.isRequested = true
  ahead : 0 ≤ (arbiter.egoOn input).distanceTo stop

instance (stop : Pose α) : Decidable (arbiter.Sustains state input stop) :=
  decidable_of_iff (input.path.points ≠ []
      ∧ (arbiter.cycle state input).decision.isRequested = true
      ∧ 0 ≤ (arbiter.egoOn input).distanceTo stop)
    ⟨fun ⟨path, requested, ahead⟩ => ⟨path, requested, ahead⟩,
      fun ⟨path, requested, ahead⟩ => ⟨path, requested, ahead⟩⟩

/-- No hold goes on. -/
def NothingCarried : Prop :=
  ∀ hold, state.held = some hold → ¬ arbiter.Sustains state input hold.requiredEnd

/-- **What a cycle can do**, as far as the command and the hold are concerned. -/
inductive Cycled (outcome : Outcome α) : Prop where
  /-- There is no path. -/
  | nowhere (path : input.path.points = []) (turn : outcome.decision.turn = .noCommand)
      (source : outcome.decision.source = .neither) (held : outcome.state.held = none)
  /-- The hold goes on. -/
  | holding (hold : HeldSignal α) (before : state.held = some hold)
      (sustains : arbiter.Sustains state input hold.requiredEnd)
      (turn : outcome.decision.turn = hold.command)
      (source : outcome.decision.source
        = if hold.command = (arbiter.verdict state input).turn
          then (arbiter.verdict state input).source else .held)
      (held : outcome.state.held = some hold)
  /-- No hold goes on, and arbitration decides. -/
  | weighed (path : input.path.points ≠ [])
      (nothing : arbiter.NothingCarried state input)
      (turn : outcome.decision.turn = (arbiter.verdict state input).turn)
      (source : outcome.decision.source = (arbiter.verdict state input).source)
      (held : outcome.state.held = (arbiter.egoOn input).newHold (arbiter.verdict state input))

variable {arbiter state input}

theorem cycle_of_path (h : input.path.points ≠ []) :
    arbiter.cycle state input = arbiter.cycleAt state input (arbiter.egoOn input) := by
  rcases hlocate : input.path.locate? arbiter.settings.nearest input.pose with _ | segment
  · exact absurd (Path.locate?_eq_none_iff.1 hlocate) h
  · simp only [cycle, locate?, egoOn, hlocate, Option.map_some, Option.getD_some]

theorem behavior_cycle : (arbiter.cycle state input).decision.behavior = input.behavior := by
  unfold cycle
  rcases arbiter.locate? input.path input.pose with _ | ego
  · rfl
  · rfl

/-- A winner that blinks was asked for. -/
theorem isRequested_of_winner {w : Candidate α}
    (hwinner : (arbiter.verdict state input).winner = some w) (henabled : w.turn.isEnabled = true) :
    (arbiter.cycle state input).decision.isRequested = true := by
  rw [Decision.isRequested, behavior_cycle, Bool.or_eq_true]
  rcases (Ego.winner_weigh hwinner).1 with rfl | hinter
  · exact Or.inl henabled
  · rw [hinter]
    exact Or.inr henabled

/-- A hold goes on exactly if the cycle sustains it. -/
theorem hold_eq_running_iff (hpath : input.path.points ≠ []) {held : Option (HeldSignal α)}
    {hold : HeldSignal α} :
    (arbiter.egoOn input).hold held (arbiter.cycle state input).decision.isRequested = .running hold
      ↔ held = some hold ∧ arbiter.Sustains state input hold.requiredEnd := by
  rcases held with _ | h
  · simp [Ego.hold]
  · simp only [Ego.hold, Option.some.injEq]
    constructor
    · intro hrunning
      split at hrunning
      · cases hrunning
      · rename_i hrequested
        split at hrunning
        · rename_i hahead
          injection hrunning with hrunning
          subst hrunning
          exact ⟨rfl, hpath, by simpa using hrequested, hahead⟩
        · cases hrunning
    · rintro ⟨rfl, -, hrequested, hahead⟩
      rw [hrequested, if_pos hahead]
      rfl

theorem isRequested_cycleAt {ego : Ego α} :
    (arbiter.cycleAt state input ego).decision.isRequested
      = (input.behavior.turn.isEnabled
        || (ego.crossing arbiter.settings input.net state.anchors input.speed).1.any
          (·.turn.isEnabled)) := rfl

/-- The cycle of an ego whose hold goes on. -/
theorem cycleAt_of_running {ego : Ego α} {hold : HeldSignal α}
    (h : ego.hold state.held (arbiter.cycleAt state input ego).decision.isRequested
      = .running hold) :
    let outcome := arbiter.cycleAt state input ego
    let verdict := ego.weigh outcome.decision.intersection input.behavior
    outcome.decision.turn = hold.command
      ∧ outcome.decision.source
        = (if hold.command = verdict.turn then verdict.source else .held)
      ∧ outcome.state.held = some hold := by
  rw [isRequested_cycleAt] at h
  simp only [cycleAt, h, and_self]

/-- …and of one without a hold that does. -/
theorem cycleAt_of_not_running {ego : Ego α}
    (h : ∀ hold, ego.hold state.held (arbiter.cycleAt state input ego).decision.isRequested
      ≠ .running hold) :
    let outcome := arbiter.cycleAt state input ego
    let verdict := ego.weigh outcome.decision.intersection input.behavior
    outcome.decision.turn = verdict.turn ∧ outcome.decision.source = verdict.source
      ∧ outcome.state.held = ego.newHold verdict := by
  rw [isRequested_cycleAt] at h
  simp only [cycleAt]
  split
  · exact absurd ‹_› (h _)
  · exact ⟨rfl, rfl, rfl⟩
  · exact ⟨rfl, rfl, rfl⟩

variable (arbiter state input) in
/-- **Every cycle is one of the three kinds.** -/
theorem cycled : arbiter.Cycled state input (arbiter.cycle state input) := by
  by_cases hpath : input.path.points = []
  · have hlocate : arbiter.locate? input.path input.pose = none := by
      rw [locate?, Path.locate?_eq_none_iff.2 hpath, Option.map_none]
    have hcycle : arbiter.cycle state input = cycleNowhere state input := by
      rw [cycle, hlocate]
    rw [hcycle]
    exact .nowhere hpath rfl rfl rfl
  · have hcycle : arbiter.cycle state input = arbiter.cycleAt state input (arbiter.egoOn input) :=
      cycle_of_path hpath
    by_cases hrunning : ∃ hold, state.held = some hold
      ∧ arbiter.Sustains state input hold.requiredEnd
    · obtain ⟨hold, hheld, hsustains⟩ := hrunning
      have hhold := (hold_eq_running_iff hpath).2 ⟨hheld, hsustains⟩
      rw [hcycle] at hhold
      obtain ⟨hturn, hsource, hkept⟩ := cycleAt_of_running hhold
      rw [← hcycle] at hturn hsource hkept
      exact .holding hold hheld hsustains hturn hsource hkept
    · have hhold : ∀ hold, (arbiter.egoOn input).hold state.held
          (arbiter.cycle state input).decision.isRequested ≠ .running hold :=
        fun hold heq => hrunning ⟨hold, (hold_eq_running_iff hpath).1 heq⟩
      rw [hcycle] at hhold
      obtain ⟨hturn, hsource, hheld⟩ := cycleAt_of_not_running hhold
      rw [← hcycle] at hturn hsource hheld
      exact .weighed hpath (fun hold hheld hs => hrunning ⟨hold, hheld, hs⟩) hturn hsource hheld

/-- **A sustained hold prevails**, and stays as it is. -/
theorem cycle_of_sustains {hold : HeldSignal α} (hheld : state.held = some hold)
    (hsustains : arbiter.Sustains state input hold.requiredEnd) :
    (arbiter.cycle state input).decision.turn = hold.command
      ∧ (arbiter.cycle state input).state.held = some hold := by
  rcases arbiter.cycled state input with
    ⟨hpath, -, -, -⟩ | ⟨hold', hheld', -, hturn, -, hkept⟩ | ⟨-, hnothing, -, -, -⟩
  · exact absurd hpath hsustains.path
  · obtain rfl : hold' = hold := Option.some.inj (hheld'.symm.trans hheld)
    exact ⟨hturn, hkept⟩
  · exact absurd hsustains (hnothing hold hheld)

/-- What is held after a cycle is what the cycle emits. -/
theorem turn_of_held {hold : HeldSignal α}
    (h : (arbiter.cycle state input).state.held = some hold) :
    (arbiter.cycle state input).decision.turn = hold.command := by
  rcases arbiter.cycled state input with
    ⟨-, -, -, hheld⟩ | ⟨hold', -, -, hturn, -, hheld⟩ | ⟨-, -, hturn, -, hheld⟩
  · rw [hheld] at h
    cases h
  · obtain rfl : hold' = hold := Option.some.inj (hheld.symm.trans h)
    exact hturn
  · obtain ⟨w, -, hverdict, -⟩ := Ego.newHold_eq_some_iff.1 (hheld.symm.trans h)
    exact hturn.trans hverdict

end SignalArbiter

/-! ## Runs -/

/-- A cycle of a run: what is remembered before it, and what it looks at. -/
structure Round (α : Type) where
  before : SignalState α
  input : CycleInput α

namespace SignalArbiter

variable (arbiter : SignalArbiter α) (stop : Pose α) (state : SignalState α)

/-- **The cycles of a run.** -/
def rounds (state : SignalState α) : List (CycleInput α) → List (Round α)
  | [] => []
  | input :: inputs => ⟨state, input⟩ :: rounds (arbiter.cycle state input).state inputs

/-- The cycle of a round. -/
def outcome (round : Round α) : Outcome α := arbiter.cycle round.before round.input

/-- The cycles of a run before the first that does not sustain a hold up to `stop`. -/
def sustained (inputs : List (CycleInput α)) : List (Round α) :=
  (arbiter.rounds state inputs).takeWhile fun r => arbiter.Sustains r.before r.input stop

variable {arbiter stop state}

theorem sustains_of_mem_sustained {inputs : List (CycleInput α)} {r : Round α}
    (h : r ∈ arbiter.sustained stop state inputs) : arbiter.Sustains r.before r.input stop := by
  simpa using List.mem_takeWhile_imp h

/-- **Induction along sustained cycles.**  If what is remembered is kept from each of them to the
next, and entails what each of them shows, then all of them show it. -/
theorem induction_of_sustained {motive : SignalState α → Prop} {shown : Round α → Prop}
    {inputs : List (CycleInput α)} (start : motive state)
    (step : ∀ r ∈ arbiter.sustained stop state inputs, motive r.before →
      shown r ∧ motive (arbiter.outcome r).state) :
    ∀ r ∈ arbiter.sustained stop state inputs, shown r := by
  induction inputs generalizing state with
  | nil => exact fun r hmem => absurd hmem List.not_mem_nil
  | cons input inputs ih =>
    intro r hmem
    simp only [sustained, rounds, List.takeWhile_cons] at hmem step
    split at hmem
    · rename_i hsustains
      rw [if_pos hsustains] at step
      obtain ⟨hshown, hnext⟩ := step _ (List.mem_cons_self ..) start
      rcases List.mem_cons.1 hmem with rfl | hmem
      · exact hshown
      · exact ih hnext (fun r hr => step r (List.mem_cons_of_mem _ hr)) r hmem
    · cases hmem

end SignalArbiter

/-! ## A straight road -/

deriving instance DecidableEq for Candidate, HeldSignal

/-- On the first axis, heading along it. -/
def Pose.onAxis (x : Float) : Pose Float := ⟨⟨x, 0⟩, 0⟩

/-- A request that is required from `start` to `stop`, and desired up to ten meters around. -/
def Candidate.onAxis (turn : TurnCommand) (start stop : Float) : Candidate Float :=
  ⟨turn, .noCommand, .onAxis (start - 10), .onAxis (stop + 10), .onAxis start, .onAxis stop⟩

/-- Ego at `x` on fifty meters of straight road, without a junction in sight. -/
def CycleInput.onAxis (x : Float) (behavior : Candidate Float) : CycleInput Float where
  net := .empty
  path := ⟨[⟨.onAxis 0, []⟩, ⟨.onAxis 50, []⟩]⟩
  behavior := behavior
  pose := .onAxis x
  speed := 0

/-- The arbiter of a passenger car. -/
def SignalArbiter.standard : SignalArbiter Float := ⟨.standard, .standard⟩

end DriveDecision
