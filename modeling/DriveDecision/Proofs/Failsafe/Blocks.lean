import DriveDecision.Proofs.Failsafe.OpenCalls
import Mathlib.Algebra.Group.Nat.Even
import Mathlib.Data.List.SplitBy

/-!
# Proofs/Failsafe/Blocks — the calls to one module, block by block

    the record        other ──▸ m ─────────────▸ other ────────▸ m ──▸
    the calls to m              on?  on?  on!    off?  off!      on!
                                └─ a block ──┘   └ a block ┘

The calls to a module, cut wherever the call changes, are its blocks.  A tick that takes up the
maneuver or gives it up begins a block with a single call, and every other tick at most goes on with
the last one (`blocksTo_made_of_change`, `blocksTo_made_of_same`).  So the number of blocks
tells whether the maneuver is recorded, and with it what each block says (`InTurn`).
-/

namespace DriveDecision

variable {pending : List Call} {issued made : List (Call × Answer)} {old new m : Maneuver}
  {call : Call} {a b : Call × Answer} {block : List (Call × Answer)}
  {blocks : List (List (Call × Answer))}

/-! ## Blocks -/

/-- **The blocks of a maneuver**: its calls, cut wherever the call changes. -/
def blocksTo (m : Maneuver) (issued : List (Call × Answer)) : List (List (Call × Answer)) :=
  (callsTo m issued).splitBy fun a b => a.1 = b.1

/-- **A call made until it is answered**: every time but the last it was not. -/
def MadeUntilAnswered (call : Call) (block : List (Call × Answer)) : Prop :=
  ∃ earlier answer, block = earlier ++ [(call, answer)]
    ∧ ∀ a ∈ earlier, a.1 = call ∧ a.2.isOpen = true

/-- **The calls of a tick begin a block** with their only call to the maneuver. -/
def BeginsBlock (m : Maneuver) (operate : Bool) (issued made : List (Call × Answer)) : Prop :=
  ∃ answer, callsTo m made = [(⟨m, operate⟩, answer)]
    ∧ blocksTo m (issued ++ made) = blocksTo m issued ++ [[(⟨m, operate⟩, answer)]]

namespace BeginsBlock

theorem length_eq {operate : Bool} (h : BeginsBlock m operate issued made) :
    (blocksTo m (issued ++ made)).length = (blocksTo m issued).length + 1 := by
  obtain ⟨answer, -, hblocks⟩ := h
  rw [hblocks, List.length_append, List.length_singleton]

/-- There is only one call to begin with. -/
theorem operate_eq {operate operate' : Bool} (h : BeginsBlock m operate issued made)
    (h' : BeginsBlock m operate' issued made) : operate = operate' := by
  obtain ⟨answer, hcalls, -⟩ := h
  obtain ⟨answer', hcalls', -⟩ := h'
  rw [hcalls] at hcalls'
  injection hcalls' with hcall
  injection hcall with hcall
  injection hcall

end BeginsBlock

theorem callsTo_append : callsTo m (issued ++ made) = callsTo m issued ++ callsTo m made :=
  List.filter_append ..

theorem isChain_concat_iff {β : Type} {R : β → β → Prop} {bs : List β} {c : β} :
    (bs ++ [c]).IsChain R ↔ bs.IsChain R ∧ ∀ b ∈ bs.getLast?, R b c := by
  simp [List.isChain_append]

/-- An element related to the last one joins the last block. -/
theorem splitBy_concat_of_rel {β : Type} {r : β → β → Bool} {bs : List β} {b c : β}
    (hlast : bs.getLast? = some b) (hr : r b c = true) :
    ∃ front block, bs.splitBy r = front ++ [block] ∧ block.getLast? = some b
      ∧ (bs ++ [c]).splitBy r = front ++ [block ++ [c]] := by
  have hne : bs.splitBy r ≠ [] := by
    rw [List.splitBy_ne_nil]
    rintro rfl
    simp at hlast
  obtain ⟨front, block, hsplit⟩ := (List.eq_nil_or_concat' _).resolve_left hne
  obtain ⟨hflat, hnil, hchain, hcuts⟩ := List.splitBy_eq_iff.1 hsplit
  have hblock : block ≠ [] := fun h => hnil (by simp [h])
  have hend : block.getLast? = some b := by
    rw [← hlast, hflat, List.flatten_append, List.flatten_singleton,
      List.getLast?_append_of_ne_nil _ hblock]
  refine ⟨front, block, hsplit, hend, List.splitBy_eq_iff.2 ⟨?_, ?_, ?_, ?_⟩⟩
  · simp [hflat]
  · simpa using fun h => hnil (List.mem_append_left _ h)
  · intro l hl
    rcases List.mem_append.1 hl with hl | hl
    · exact hchain l (List.mem_append_left _ hl)
    · obtain rfl := List.mem_singleton.1 hl
      refine isChain_concat_iff.2 ⟨hchain block (by simp), fun x hx => ?_⟩
      obtain rfl : b = x := Option.some.inj (hend.symm.trans hx)
      exact hr
  · rw [isChain_concat_iff] at hcuts ⊢
    refine ⟨hcuts.1, fun x hx => ?_⟩
    obtain ⟨hx', hblock', hcut⟩ := hcuts.2 x hx
    exact ⟨hx', by simp, by rwa [List.head_append_of_ne_nil hblock']⟩

/-! ## The blocks a tick begins or goes on with

`made` are the calls of one tick with their answers. -/

section Made

variable (hmade : made.map (·.1) = callsToward pending old new)
include hmade

/-- A call of a tick is its only one to that module. -/
theorem callsTo_eq_singleton_of_made (ha : a ∈ made) : callsTo a.1.maneuver made = [a] := by
  have hnodup : (made.map (·.1.maneuver)).Nodup := by
    have h : ((callsToward pending old new).map (·.maneuver)).Nodup :=
      nodup_map_maneuver_callsToward
    rwa [← hmade, List.map_map] at h
  have hall : ∀ b ∈ callsTo a.1.maneuver made, b = a := by
    intro b hb
    obtain ⟨hb, hmaneuver⟩ : b ∈ made ∧ b.1.maneuver = a.1.maneuver := by simpa [callsTo] using hb
    exact List.inj_on_of_nodup_map hnodup hb ha hmaneuver
  have hmem : a ∈ callsTo a.1.maneuver made := by simpa [callsTo] using ha
  have hlength : (callsTo a.1.maneuver made).length = 1 := by
    have hnodup' : (callsTo a.1.maneuver made).Nodup := (List.Nodup.of_map _ hnodup).filter _
    rw [List.eq_replicate_of_mem hall, List.nodup_replicate] at hnodup'
    exact Nat.le_antisymm hnodup' (List.length_pos_of_mem hmem)
  rw [List.eq_replicate_of_mem hall, hlength]
  rfl

/-- **A tick that takes up a maneuver or gives it up makes one call to it**, and says so. -/
theorem callsTo_made_of_change (hm : m ≠ .none) (hchange : ¬ (m = old ↔ m = new)) :
    ∃ answer, callsTo m made = [(⟨m, decide (m = new)⟩, answer)] := by
  have hne : old ≠ new := by
    rintro rfl
    exact hchange Iff.rfl
  have hcall : ⟨m, decide (m = new)⟩ ∈ callsToward pending old new := by
    by_cases hnew : m = new
    · subst hnew
      simpa using activate_mem_callsToward hne hm
    · obtain rfl : m = old := by
        by_contra hold
        exact hchange ⟨fun h => absurd h hold, fun h => absurd h hnew⟩
      simpa [hnew] using cancel_mem_callsToward hne hm
  rw [← hmade] at hcall
  obtain ⟨⟨call, answer⟩, ha, rfl⟩ := List.mem_map.1 hcall
  exact ⟨answer, callsTo_eq_singleton_of_made hmade ha⟩

/-- **Any other tick makes no call to it, or the last one again**, if that was not answered. -/
theorem callsTo_made_of_same (h : Mirrors old pending issued) (hsame : m = old ↔ m = new) :
    callsTo m made = [] ∨ ∃ call answer answer', lastCall m issued = some (call, answer)
      ∧ answer.isOpen = true ∧ callsTo m made = [(call, answer')] := by
  rcases List.eq_nil_or_concat' (callsTo m made) with hnone | ⟨_, ⟨call, answer'⟩, hsome⟩
  · exact Or.inl hnone
  · obtain ⟨ha, rfl⟩ : (call, answer') ∈ made ∧ call.maneuver = m := by
      have hmem : (call, answer') ∈ callsTo m made := by simp [hsome]
      simpa [callsTo] using hmem
    rcases mem_callsToward.1 (mem_callsToward_of_made hmade ha) with ⟨hopen, -⟩ | ⟨hne, -, hchange⟩
    · obtain ⟨answer, hlast, hanswer⟩ := (h.mem_pending call).1 hopen
      exact Or.inr ⟨call, answer, answer', hlast, hanswer, callsTo_eq_singleton_of_made hmade ha⟩
    -- a call of the change is to the maneuver given up or to the one taken up
    · rcases hchange with rfl | rfl
      · exact absurd (hsame.1 rfl) hne
      · exact absurd (hsame.2 rfl).symm hne

/-- **A change begins a block**: the last call said the opposite. -/
theorem blocksTo_made_of_change (h : Mirrors old pending issued) (hm : m ≠ .none)
    (hchange : ¬ (m = old ↔ m = new)) : BeginsBlock m (decide (m = new)) issued made := by
  obtain ⟨answer, hcalls⟩ := callsTo_made_of_change hmade hm hchange
  refine ⟨answer, hcalls, ?_⟩
  rw [blocksTo, callsTo_append, hcalls, List.splitBy_append_cons]
  · rfl
  · intro b hb
    have hwanted : b.1.operate = true ↔ b.1.maneuver = old :=
      Call.isWanted_iff.1 (h.isWanted m b hb)
    rw [(mem_of_lastCall hb).2] at hwanted
    refine decide_eq_false fun heq => hchange ?_
    rw [← hwanted, heq, decide_eq_true_eq]

/-- **Without one, the blocks stay as they are**, or the last one goes on. -/
theorem blocksTo_made_of_same (h : Mirrors old pending issued) (hsame : m = old ↔ m = new) :
    blocksTo m (issued ++ made) = blocksTo m issued
      ∨ ∃ front block call answer answer', blocksTo m issued = front ++ [block]
        ∧ block.getLast? = some (call, answer) ∧ answer.isOpen = true
        ∧ blocksTo m (issued ++ made) = front ++ [block ++ [(call, answer')]] := by
  rcases callsTo_made_of_same hmade h hsame with
    hnone | ⟨call, answer, answer', hlast, hopen, hcalls⟩
  · left
    rw [blocksTo, callsTo_append, hnone, List.append_nil, blocksTo]
  · right
    obtain ⟨front, block, hsplit, hend, hjoined⟩ := splitBy_concat_of_rel
      (r := fun a b : Call × Answer => decide (a.1 = b.1)) (c := (call, answer')) hlast
      (decide_eq_true rfl)
    refine ⟨front, block, call, answer, answer', hsplit, hend, hopen, ?_⟩
    rw [blocksTo, callsTo_append, hcalls, hjoined]

end Made

/-! ## Activations and cancellations in turn -/

/-- **Blocks in turn**: activations in the even ones, from the first on, and cancellations in the
odd ones.  There is an odd number of them exactly while the maneuver is recorded. -/
structure InTurn (m recorded : Maneuver) (blocks : List (List (Call × Answer))) : Prop where
  block : ∀ (i : Nat) (block : List (Call × Answer)), blocks[i]? = some block →
    MadeUntilAnswered ⟨m, decide (Even i)⟩ block
  even_length : Even blocks.length ↔ m ≠ recorded

theorem getElem?_concat_eq_some_iff {β : Type} {bs : List β} {b c : β} {i : Nat} :
    (bs ++ [b])[i]? = some c ↔ bs[i]? = some c ∨ (i = bs.length ∧ b = c) := by
  grind

namespace InTurn

theorem start (hm : m ≠ .none) : InTurn m .none [] where
  block := fun i block h => by simp at h
  even_length := by simpa using hm

/-- A change begins the next block, with the call that is next in turn. -/
theorem concat (h : InTurn m old blocks) (hchange : ¬ (m = old ↔ m = new)) (answer : Answer) :
    InTurn m new (blocks ++ [[(⟨m, decide (m = new)⟩, answer)]]) where
  block := by
    intro i block hblock
    rcases getElem?_concat_eq_some_iff.1 hblock with hblock | ⟨rfl, rfl⟩
    · exact h.block i block hblock
    · have hnext : Even blocks.length ↔ m = new := by
        rw [h.even_length]
        tauto
      exact ⟨[], answer, by simp [hnext], by simp⟩
  even_length := by
    rw [List.length_append, List.length_singleton, Nat.even_add_one, h.even_length]
    tauto

/-- The last block goes on with a call that was not answered. -/
theorem goOn {front : List (List (Call × Answer))} {answer answer' : Answer}
    (h : InTurn m old (front ++ [block])) (hend : block.getLast? = some (call, answer))
    (hopen : answer.isOpen = true) (hsame : m = old ↔ m = new) :
    InTurn m new (front ++ [block ++ [(call, answer')]]) where
  block := by
    intro i block' hblock
    rcases getElem?_concat_eq_some_iff.1 hblock with hblock | ⟨rfl, rfl⟩
    · exact h.block i block' (getElem?_concat_eq_some_iff.2 (Or.inl hblock))
    · obtain ⟨earlier, answer'', rfl, hearlier⟩ :=
        h.block _ block (getElem?_concat_eq_some_iff.2 (Or.inr ⟨rfl, rfl⟩))
      rw [List.getLast?_concat, Option.some.injEq, Prod.mk.injEq] at hend
      obtain ⟨rfl, rfl⟩ := hend
      refine ⟨_, answer', rfl, fun a ha => ?_⟩
      rcases List.mem_append.1 ha with ha | ha
      · exact hearlier a ha
      · obtain rfl := List.mem_singleton.1 ha
        exact ⟨rfl, hopen⟩
  even_length := by
    have hlength := h.even_length
    rw [List.length_append, List.length_singleton] at hlength ⊢
    rw [hlength]
    exact not_congr hsame

/-- **A tick keeps the blocks in turn.** -/
theorem published (h : InTurn m old (blocksTo m issued)) (hmirrors : Mirrors old pending issued)
    (hm : m ≠ .none) (hmade : made.map (·.1) = callsToward pending old new) :
    InTurn m new (blocksTo m (issued ++ made)) := by
  by_cases hsame : m = old ↔ m = new
  · rcases blocksTo_made_of_same hmade hmirrors hsame with
      heq | ⟨front, block, call, answer, answer', hblocks, hend, hopen, heq⟩
    · rw [heq]
      exact ⟨h.block, h.even_length.trans (not_congr hsame)⟩
    · rw [heq]
      exact (hblocks ▸ h).goOn hend hopen hsame
  · obtain ⟨answer, -, heq⟩ := blocksTo_made_of_change hmade hmirrors hm hsame
    rw [heq]
    exact h.concat hsame answer

/-- The first of the calls is an activation. -/
theorem head_eq (h : InTurn m old (blocksTo m issued)) (hhead : (callsTo m issued).head? = some a) :
    a.1 = ⟨m, true⟩ := by
  rcases hblocks : blocksTo m issued with _ | ⟨first, rest⟩
  · rw [blocksTo, List.splitBy_eq_nil] at hblocks
    rw [hblocks] at hhead
    cases hhead
  · obtain ⟨earlier, answer, rfl, hearlier⟩ := h.block 0 first (by rw [hblocks]; rfl)
    have hcalls : callsTo m issued
        = (earlier ++ [(⟨m, decide (Even 0)⟩, answer)]) ++ rest.flatten := by
      rw [← List.flatten_cons, ← hblocks, blocksTo, List.flatten_splitBy]
    rw [hcalls] at hhead
    rcases earlier with _ | ⟨b, earlier⟩
    · obtain rfl := Option.some.inj hhead
      simp
    · obtain rfl : b = a := Option.some.inj hhead
      simpa using (hearlier b (List.mem_cons_self ..)).1

end InTurn

namespace System

/-- **A step takes up a maneuver**: it publishes one that was not recorded before. -/
def TakesUp (system : System) (event : Event) (m : Maneuver) : Prop :=
  system.handler.state.maneuver ≠ m
    ∧ ∃ out, (system.step event).2.output = some out ∧ out.state.maneuver = m

/-- **A step gives up a maneuver**: it was recorded, and is not what is published. -/
def GivesUp (system : System) (event : Event) (m : Maneuver) : Prop :=
  system.handler.state.maneuver = m
    ∧ ∃ out, (system.step event).2.output = some out ∧ out.state.maneuver ≠ m

variable {system : System} {event : Event}

/-- Only what is published is recorded. -/
theorem takesUp_iff : system.TakesUp event m ↔ m ≠ system.handler.state.maneuver
    ∧ m = (system.step event).1.handler.state.maneuver := by
  rw [TakesUp, ne_comm, and_congr_right_iff]
  intro hnew
  rcases system.step_moved event with ⟨hstate, -, hnone, -⟩ | ⟨⟨out, hout, hrecord⟩, -, -⟩
  · simp [hnone, hstate, hnew]
  · simp [hout, hrecord, eq_comm]

theorem givesUp_iff : system.GivesUp event m ↔ m = system.handler.state.maneuver
    ∧ m ≠ (system.step event).1.handler.state.maneuver := by
  rw [GivesUp, eq_comm, and_congr_right_iff]
  intro hold
  rcases system.step_moved event with ⟨hstate, -, hnone, -⟩ | ⟨⟨out, hout, hrecord⟩, -, -⟩
  · simp [hnone, hstate, hold]
  · simp [hout, hrecord, eq_comm]

/-- **After any run the blocks are in turn.** -/
theorem after_inTurn (settings : FailsafeSettings) (clock : Clock) (store : Store)
    (responder : Responder) (hm : m ≠ .none) (events : List Event) :
    let start := fresh settings clock store responder
    InTurn m (start.after events).handler.state.maneuver (blocksTo m (start.issued events)) := by
  intro start
  induction events using List.reverseRecOn with
  | nil => exact InTurn.start hm
  | append_singleton events event ih =>
    rw [after_concat, issued_concat]
    rcases (start.after events).step_moved event with ⟨hstate, -, -, hissued⟩ | ⟨-, hcalls, -⟩
    · rwa [hstate, hissued, List.append_nil]
    · exact ih.published (after_mirrors settings clock store responder events) hm hcalls

/-- A step that changes the record of a maneuver begins a block, and no other does. -/
theorem step_blocks (event : Event)
    (h : Mirrors system.handler.state.maneuver system.handler.pending issued)
    (hm : m ≠ .none) :
    let old := system.handler.state.maneuver
    let new := (system.step event).1.handler.state.maneuver
    let made := (system.step event).2.issued
    ((m = old ↔ m = new) ∧ (blocksTo m (issued ++ made)).length = (blocksTo m issued).length)
      ∨ (¬ (m = old ↔ m = new) ∧ BeginsBlock m (decide (m = new)) issued made) := by
  intro old new made
  rcases system.step_moved event with ⟨hstate, -, -, hnone⟩ | ⟨-, hcalls, -⟩
  · left
    rw [show made = [] from hnone, show new = old from congrArg (·.maneuver) hstate,
      List.append_nil]
    exact ⟨Iff.rfl, rfl⟩
  · by_cases hsame : m = old ↔ m = new
    · left
      refine ⟨hsame, ?_⟩
      rcases blocksTo_made_of_same hcalls h hsame with
        heq | ⟨front, block, call, answer, answer', hblocks, -, -, heq⟩
      · rw [heq]
      · rw [heq, hblocks, List.length_append, List.length_append]
        rfl
    · exact Or.inr ⟨hsame, blocksTo_made_of_change hcalls h hm hsame⟩

/-- **A step begins a block exactly if it takes the maneuver up or gives it up.** -/
theorem step_beginsBlock_iff
    (h : Mirrors system.handler.state.maneuver system.handler.pending issued) (hm : m ≠ .none) :
    let made := (system.step event).2.issued
    (BeginsBlock m true issued made ↔ system.TakesUp event m)
      ∧ (BeginsBlock m false issued made ↔ system.GivesUp event m)
      ∧ (¬ system.TakesUp event m → ¬ system.GivesUp event m →
        (blocksTo m (issued ++ made)).length = (blocksTo m issued).length) := by
  intro made
  rw [takesUp_iff, givesUp_iff]
  rcases step_blocks event h hm with ⟨hsame, hlength⟩ | ⟨hchange, hbegins⟩
  · have hnone : ∀ operate, ¬ BeginsBlock m operate issued made := fun operate hbegins =>
      absurd (hbegins.length_eq.symm.trans hlength) (Nat.succ_ne_self _)
    refine ⟨iff_of_false (hnone true) ?_, iff_of_false (hnone false) ?_, fun _ _ => hlength⟩
    · tauto
    · tauto
  · refine ⟨⟨fun h' => ?_, fun h' => ?_⟩, ⟨fun h' => ?_, fun h' => ?_⟩, fun h' h'' => ?_⟩
    · have := of_decide_eq_true (hbegins.operate_eq h')
      tauto
    · rwa [decide_eq_true h'.2] at hbegins
    · have := of_decide_eq_false (hbegins.operate_eq h')
      tauto
    · rwa [decide_eq_false h'.2] at hbegins
    · tauto

end System

/-- **The calls to a module come in blocks.**  Throughout any run of a new handler, activations and
cancellations take turns, activations first, and each is made until it is answered and never after.
A step begins a block of activations exactly if it takes up the maneuver, and one of cancellations
exactly if it gives it up, with a single call; any other step begins none.  So no module is
cancelled that was not activated before. -/
theorem calls_alternate_in_blocks (settings : FailsafeSettings) (clock : Clock) (store : Store)
    (responder : Responder) (m : Maneuver) (hm : m ≠ .none) (events : List Event) :
    let start := System.fresh settings clock store responder
    let system := start.after events
    let issued := start.issued events
    (∀ (i : Nat) block, (blocksTo m issued)[i]? = some block →
        MadeUntilAnswered ⟨m, decide (Even i)⟩ block)
      ∧ (∀ event,
          let made := (system.step event).2.issued
          (BeginsBlock m true issued made ↔ system.TakesUp event m)
            ∧ (BeginsBlock m false issued made ↔ system.GivesUp event m)
            ∧ (¬ system.TakesUp event m → ¬ system.GivesUp event m →
              (blocksTo m (issued ++ made)).length = (blocksTo m issued).length))
      ∧ ∀ sent answer rest, callsTo m issued = sent ++ (⟨m, false⟩, answer) :: rest →
          ∃ a ∈ sent, a.1 = ⟨m, true⟩ := by
  intro start system issued
  have hturn : InTurn m system.handler.state.maneuver (blocksTo m issued) :=
    System.after_inTurn settings clock store responder hm events
  refine ⟨hturn.block, fun event => ?_, fun sent answer rest hcalls => ?_⟩
  · exact System.step_beginsBlock_iff
      (System.after_mirrors settings clock store responder events) hm
  · rcases sent with _ | ⟨first, sent⟩
    · have hhead := hturn.head_eq (a := (⟨m, false⟩, answer)) (by rw [hcalls]; rfl)
      simp at hhead
    · exact ⟨first, List.mem_cons_self .., hturn.head_eq (by rw [hcalls]; rfl)⟩

/-- The comfortable stop is given up while its activation is still open: a new block begins, with
its cancellation. -/
theorem latentFault_begins_block :
    let events := [.tick] ++ System.worseAfterOutage
    let system := System.latentFault.after events
    let issued := System.latentFault.issued events
    let next := system.step .tick
    Maneuver.comfortableStop ≠ .none
      ∧ blocksTo .comfortableStop issued = [[(⟨.comfortableStop, true⟩, .silent)]]
      ∧ MadeUntilAnswered ⟨.comfortableStop, true⟩ [(⟨.comfortableStop, true⟩, .silent)]
      ∧ system.GivesUp .tick .comfortableStop
      ∧ BeginsBlock .comfortableStop false issued next.2.issued := by
  intro events system issued next
  have hblocks : blocksTo .comfortableStop issued = [[(⟨.comfortableStop, true⟩, .silent)]] := by
    decide +kernel
  have hout : next.2.output = some ⟨.enable, .drive, ⟨.operating, .emergencyStop, .zero⟩⟩ := by
    decide +kernel
  have hgives : system.GivesUp .tick .comfortableStop :=
    ⟨by decide +kernel, _, hout, by decide⟩
  obtain ⟨hturn, hbegins, -⟩ := calls_alternate_in_blocks System.latentFault.settings
    System.latentFault.clock System.latentFault.store System.latentFault.responder
    .comfortableStop (by decide) events
  exact ⟨by decide, hblocks, hturn 0 _ (congrArg (·[0]?) hblocks), hgives,
    (hbegins .tick).2.1.2 hgives⟩

end DriveDecision
