import DriveDecision.Failsafe.System
import Mathlib.Algebra.GroupWithZero.Nat
import Mathlib.Data.FinEnum

/-!
# Proofs/Wire/LastWriter — each field of the store keeps what was sent to it last

    hazard   h₁ ─────────── h₂ ──────▸ h₂, with the time
    mode     ──── m₁ ── ╳ ───────────▸ m₁                  cannot be decoded
    speed    ─────────────────────────▸ what it was

A batch is several producers at once, and each has one field.  What a field holds in the end is said
by the messages for that field alone (`Store.latest`), so how the producers are interleaved does not
matter (`Store.latest_eq_of_filter_eq`).
-/

namespace DriveDecision

/-- The fields of the store, one for each producer. -/
inductive Field where
  | hazard
  | speed
  | mode
  | comfortableStop
  | emergencyStop
  deriving DecidableEq, Repr

namespace Inbound

/-- The field a message is for. -/
def field : Inbound → Field
  | hazard .. => .hazard
  | odometry _ => .speed
  | mode _ => .mode
  | comfortableStop _ => .comfortableStop
  | emergencyStop _ => .emergencyStop

/-- **Its code stands for something**: there are four fault levels, seven modes and five statuses,
and a speed has no code. -/
def isDecodable : Inbound → Bool
  | hazard level _ _ => level < 4
  | odometry _ => true
  | mode code => code < 7
  | comfortableStop code | emergencyStop code => code < 5

/-! What a message says of each field. -/

def report? : Inbound → Option HazardReport
  | hazard level emergency holding =>
    (WireCode.ofCode level).toOption.map fun level => ⟨level, emergency, holding⟩
  | _ => none

def speed? : Inbound → Option Float
  | odometry speed => some speed
  | _ => none

def mode? : Inbound → Option ControlMode
  | mode code => (WireCode.ofCode code).toOption
  | _ => none

def comfortableStop? : Inbound → Option ModuleStatus
  | comfortableStop code => (WireCode.ofCode code).toOption
  | _ => none

def emergencyStop? : Inbound → Option ModuleStatus
  | emergencyStop code => (WireCode.ofCode code).toOption
  | _ => none

end Inbound

/-! ## The last value sent -/

/-- The last of some values, or the one before them. -/
def lastSent {τ : Type} (values : List τ) (before : Option τ) : Option τ :=
  values.getLast?.or before

theorem lastSent_filterMap_cons {τ : Type} (value? : Inbound → Option τ) (message : Inbound)
    (messages : List Inbound) (before : Option τ) :
    lastSent ((message :: messages).filterMap value?) before
      = lastSent (messages.filterMap value?) ((value? message).or before) := by
  rw [List.filterMap_cons]
  cases value? message with
  | none => rfl
  | some value =>
    simp only [lastSent, List.getLast?_cons]
    cases (messages.filterMap value?).getLast? <;> rfl

namespace Store

/-- **What each field holds after some messages**: the last value sent to it, or what it held
before. -/
def latest (store : Store) (now : Duration) (messages : List Inbound) : Store where
  hazard := lastSent (messages.filterMap fun message => message.report?.map (⟨now, ·⟩)) store.hazard
  speed := lastSent (messages.filterMap (·.speed?)) store.speed
  mode := lastSent (messages.filterMap (·.mode?)) store.mode
  comfortableStop := lastSent (messages.filterMap (·.comfortableStop?)) store.comfortableStop
  emergencyStop := lastSent (messages.filterMap (·.emergencyStop?)) store.emergencyStop

/-- What each field holds after one message. -/
def heed (store : Store) (now : Duration) (message : Inbound) : Store where
  hazard := (message.report?.map (⟨now, ·⟩)).or store.hazard
  speed := message.speed?.or store.speed
  mode := message.mode?.or store.mode
  comfortableStop := message.comfortableStop?.or store.comfortableStop
  emergencyStop := message.emergencyStop?.or store.emergencyStop

variable (store : Store) (now : Duration)

theorem latest_cons (message : Inbound) (messages : List Inbound) :
    store.latest now (message :: messages) = (store.heed now message).latest now messages := by
  simp only [latest, heed, lastSent_filterMap_cons]

/-! ## One message -/

theorem isOk_ofCode_faultLevel (code : UInt8) :
    (WireCode.ofCode code : Except DecodeError FaultLevel).isOk = decide (code < 4) := by
  revert code
  decide +kernel

theorem isOk_ofCode_controlMode (code : UInt8) :
    (WireCode.ofCode code : Except DecodeError ControlMode).isOk = decide (code < 7) := by
  revert code
  decide +kernel

theorem isOk_ofCode_moduleStatus (code : UInt8) :
    (WireCode.ofCode code : Except DecodeError ModuleStatus).isOk = decide (code < 5) := by
  revert code
  decide +kernel

/-- **One message** changes its own field if it can be decoded, and otherwise none. -/
theorem receive_cases (message : Inbound) :
    (message.isDecodable = true ∧ store.receive now message = .ok (store.heed now message))
      ∨ (message.isDecodable = false ∧ (∃ e, store.receive now message = .error e)
        ∧ store.heed now message = store) := by
  cases message with
  | odometry speed => exact Or.inl ⟨rfl, rfl⟩
  | hazard level emergency holding =>
    simp only [Inbound.isDecodable, ← isOk_ofCode_faultLevel, receive, Inbound.read, heed,
      Inbound.report?]
    cases (WireCode.ofCode level : Except DecodeError FaultLevel) with
    | error e => exact Or.inr ⟨rfl, ⟨e, rfl⟩, rfl⟩
    | ok value => exact Or.inl ⟨rfl, rfl⟩
  | mode code =>
    simp only [Inbound.isDecodable, ← isOk_ofCode_controlMode, receive, Inbound.read, heed,
      Inbound.mode?]
    cases (WireCode.ofCode code : Except DecodeError ControlMode) with
    | error e => exact Or.inr ⟨rfl, ⟨e, rfl⟩, rfl⟩
    | ok value => exact Or.inl ⟨rfl, rfl⟩
  | comfortableStop code =>
    simp only [Inbound.isDecodable, ← isOk_ofCode_moduleStatus, receive, Inbound.read, heed,
      Inbound.comfortableStop?]
    cases (WireCode.ofCode code : Except DecodeError ModuleStatus) with
    | error e => exact Or.inr ⟨rfl, ⟨e, rfl⟩, rfl⟩
    | ok value => exact Or.inl ⟨rfl, rfl⟩
  | emergencyStop code =>
    simp only [Inbound.isDecodable, ← isOk_ofCode_moduleStatus, receive, Inbound.read, heed,
      Inbound.emergencyStop?]
    cases (WireCode.ofCode code : Except DecodeError ModuleStatus) with
    | error e => exact Or.inr ⟨rfl, ⟨e, rfl⟩, rfl⟩
    | ok value => exact Or.inl ⟨rfl, rfl⟩

/-! ## A batch -/

/-- What a message adds to a batch. -/
def Received.add (now : Duration) (got : Received) (message : Inbound) : Received :=
  match got.store.receive now message with
  | .ok store => { got with store := store, applied := got.applied + 1 }
  | .error e => { got with entries := got.entries ++ [message.dropped e] }

theorem receiveAll_eq_foldl (messages : List Inbound) :
    store.receiveAll now messages = messages.foldl (Received.add now) { store := store } := rfl

theorem foldl_add (got : Received) (messages : List Inbound) :
    (messages.foldl (Received.add now) got).store = got.store.latest now messages
      ∧ (messages.foldl (Received.add now) got).applied
        = got.applied + messages.countP (·.isDecodable) := by
  induction messages generalizing got with
  | nil => exact ⟨rfl, rfl⟩
  | cons message messages ih =>
    obtain ⟨hstore, happlied⟩ := ih (got.add now message)
    rw [List.foldl_cons, hstore, happlied, latest_cons, List.countP_cons, Received.add]
    rcases got.store.receive_cases now message with ⟨hdec, hok⟩ | ⟨hdec, ⟨e, herror⟩, hsame⟩
    · simp only [hdec, hok, if_true, true_and]
      omega
    · simp only [hdec, herror, hsame, Bool.false_eq_true, if_false, Nat.add_zero, and_self]

/-- **A batch** leaves the latest values. -/
theorem store_receiveAll (messages : List Inbound) :
    (store.receiveAll now messages).store = store.latest now messages := by
  rw [receiveAll_eq_foldl]
  exact (foldl_add now { store := store } messages).1

/-- …and counts the messages that can be decoded. -/
theorem applied_receiveAll (messages : List Inbound) :
    (store.receiveAll now messages).applied = messages.countP (·.isDecodable) := by
  obtain ⟨-, happlied⟩ := foldl_add now { store := store } messages
  rw [receiveAll_eq_foldl, happlied, Nat.zero_add]

/-- A message that cannot be decoded may as well be left out. -/
theorem latest_append_cons {message : Inbound} (h : message.isDecodable = false)
    (before after : List Inbound) :
    store.latest now (before ++ message :: after) = store.latest now (before ++ after) := by
  induction before generalizing store with
  | nil =>
    rcases store.receive_cases now message with ⟨hdec, -⟩ | ⟨-, -, hsame⟩
    · rw [h] at hdec
      cases hdec
    · rw [List.nil_append, latest_cons, hsame, List.nil_append]
  | cons first before ih =>
    rw [List.cons_append, List.cons_append, latest_cons, latest_cons, ih]

end Store

/-! ## Producers side by side -/

section Interleaving

variable {messages others : List Inbound}

/-- What a field is told, it is told by the messages for it. -/
theorem filterMap_filter_field {τ : Type} {value? : Inbound → Option τ} {field : Field}
    (h : ∀ message value, value? message = some value → message.field = field) :
    (messages.filter (·.field = field)).filterMap value? = messages.filterMap value? := by
  induction messages with
  | nil => rfl
  | cons message messages ih =>
    by_cases hfield : message.field = field
    · rw [List.filter_cons_of_pos (by simpa using hfield), List.filterMap_cons,
        List.filterMap_cons, ih]
    · have hnone : value? message = none :=
        Option.eq_none_iff_forall_ne_some.2 fun value hsome => hfield (h message value hsome)
      rw [List.filter_cons_of_neg (by simpa using hfield), List.filterMap_cons, hnone, ih]

/-- Every message is for one of the fields. -/
theorem countP_eq_sum_filter_field (p : Inbound → Bool) (messages : List Inbound) :
    messages.countP p
      = ([.hazard, .speed, .mode, .comfortableStop, .emergencyStop].map fun field =>
        (messages.filter (·.field = field)).countP p).sum := by
  induction messages with
  | nil => rfl
  | cons message messages ih =>
    simp only [List.map_cons, List.map_nil, List.sum_cons, List.sum_nil] at ih ⊢
    cases hfield : message.field <;>
      simp only [List.filter_cons, hfield, List.countP_cons, decide_true, decide_false, if_true,
        reduceCtorEq, Bool.false_eq_true, if_false, ih] <;>
      omega

variable (h : ∀ field, others.filter (·.field = field) = messages.filter (·.field = field))

include h in
/-- **How the producers are interleaved does not matter** for what the fields hold. -/
theorem Store.latest_eq_of_filter_eq (store : Store) (now : Duration) :
    store.latest now others = store.latest now messages := by
  have hvalues {τ : Type} {value? : Inbound → Option τ} {field : Field}
      (hfield : ∀ message value, value? message = some value → message.field = field) :
      others.filterMap value? = messages.filterMap value? := by
    rw [← filterMap_filter_field hfield, h field, filterMap_filter_field hfield]
  have hhazard : others.filterMap (fun message => message.report?.map (StampedReport.mk now ·))
      = messages.filterMap fun message => message.report?.map (StampedReport.mk now ·) :=
    hvalues fun | .hazard .., _, _ => rfl
  have hspeed : others.filterMap (·.speed?) = messages.filterMap (·.speed?) :=
    hvalues fun | .odometry _, _, _ => rfl
  have hmode : others.filterMap (·.mode?) = messages.filterMap (·.mode?) :=
    hvalues fun | .mode _, _, _ => rfl
  have hcomfortable : others.filterMap (·.comfortableStop?)
      = messages.filterMap (·.comfortableStop?) :=
    hvalues fun | .comfortableStop _, _, _ => rfl
  have hemergency : others.filterMap (·.emergencyStop?) = messages.filterMap (·.emergencyStop?) :=
    hvalues fun | .emergencyStop _, _, _ => rfl
  simp only [latest, hhazard, hspeed, hmode, hcomfortable, hemergency]

include h in
/-- …nor for how many can be decoded. -/
theorem countP_eq_of_filter_eq (p : Inbound → Bool) : others.countP p = messages.countP p := by
  rw [countP_eq_sum_filter_field, countP_eq_sum_filter_field p messages]
  simp only [h]

end Interleaving

/-- **The last writer wins, field by field.**  A batch taken in at one time counts the messages that
can be decoded, and leaves in each field the last value sent to it, a report with that time, or else
what the field held.  A message that cannot be decoded is refused, and the batch without it leaves
the same store.  Every other batch that tells each field the same in the same order, however the
producers are interleaved in it, counts as many messages and leaves the same store, so that the next
tick of a system is the same. -/
theorem last_writer_wins (store : Store) (now : Duration) (messages : List Inbound) :
    let received := store.receiveAll now messages
    received.applied = messages.countP (·.isDecodable)
      ∧ received.store = store.latest now messages
      ∧ (∀ message before after, message.isDecodable = false →
        messages = before ++ message :: after →
        (∃ e, (store.receiveAll now before).store.receive now message = .error e)
          ∧ received.store = (store.receiveAll now (before ++ after)).store)
      ∧ ∀ others : List Inbound,
        (∀ field, others.filter (·.field = field) = messages.filter (·.field = field)) →
        (store.receiveAll now others).applied = received.applied
          ∧ (store.receiveAll now others).store = received.store
          ∧ ∀ system : System,
            { system with store := (store.receiveAll now others).store }.tick
              = { system with store := received.store }.tick := by
  intro received
  refine ⟨store.applied_receiveAll now messages, store.store_receiveAll now messages, ?_, ?_⟩
  · rintro message before after hdec rfl
    constructor
    · rcases (store.receiveAll now before).store.receive_cases now message with ⟨h, -⟩ | ⟨-, h, -⟩
      · rw [hdec] at h
        cases h
      · exact h
    · rw [Store.store_receiveAll, Store.store_receiveAll, Store.latest_append_cons store now hdec]
  · intro others hfields
    have hstore : (store.receiveAll now others).store = received.store := by
      rw [Store.store_receiveAll, Store.store_receiveAll, Store.latest_eq_of_filter_eq hfields]
    refine ⟨?_, hstore, fun system => by rw [hstore]⟩
    rw [Store.applied_receiveAll, Store.applied_receiveAll, countP_eq_of_filter_eq hfields]

/-- Two producers, one of which sends a mode that is none, side by side in two ways. -/
theorem last_writer_wins_interleaved :
    let store : Store := { mode := some .manual }
    let now := Duration.ofSeconds 3
    let messages := [.mode 1, .emergencyStop 2, .mode 9, .hazard 7 true true, .emergencyStop 1]
    let others := [.emergencyStop 2, .hazard 7 true true, .mode 1, .emergencyStop 1, .mode 9]
    (store.receiveAll now messages).applied = 3
      ∧ (store.receiveAll now messages).store.mode = some .autonomous
      ∧ (store.receiveAll now messages).store
        = (store.receiveAll now
          [.mode 1, .emergencyStop 2, .hazard 7 true true, .emergencyStop 1]).store
      ∧ (store.receiveAll now others).applied = (store.receiveAll now messages).applied
      ∧ (store.receiveAll now others).store = (store.receiveAll now messages).store := by
  intro store now messages others
  have hfields : ∀ field, others.filter (·.field = field) = messages.filter (·.field = field) := by
    intro field
    cases field <;> rfl
  obtain ⟨happlied, hlatest, hleftOut, hothers⟩ := last_writer_wins store now messages
  obtain ⟨hcount, hstore, -⟩ := hothers others hfields
  exact ⟨happlied.trans (by decide), (congrArg Store.mode hlatest).trans rfl,
    (hleftOut (.mode 9) [.mode 1, .emergencyStop 2] _ rfl rfl).2, hcount, hstore⟩

end DriveDecision
