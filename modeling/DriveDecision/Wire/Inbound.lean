import DriveDecision.Dump
import DriveDecision.Failsafe.Store
import DriveDecision.Log
import DriveDecision.Number.Text
import DriveDecision.Wire.Code

/-!
# Wire/Inbound — what producers send, and where it goes

Every producer has one field of the store.  A message whose code stands for nothing changes no
field; in a batch it is dropped with a notice and the rest goes on.
-/

namespace DriveDecision

/-- A value for one field of the store. -/
inductive Reading where
  | hazard (report : HazardReport)
  /-- A report that was received at another time. -/
  | hazardAt (report : StampedReport)
  | speed (metersPerSecond : Float)
  | mode (mode : ControlMode)
  | comfortableStop (status : ModuleStatus)
  | emergencyStop (status : ModuleStatus)
  deriving Repr

/-- **Write a value into its field**; a report is stamped with the time it comes in. -/
def Store.record (store : Store) (now : Duration) : Reading → Store
  | .hazard report => { store with hazard := some ⟨now, report⟩ }
  | .hazardAt report => { store with hazard := some report }
  | .speed v => { store with speed := some v }
  | .mode m => { store with mode := some m }
  | .comfortableStop s => { store with comfortableStop := some s }
  | .emergencyStop s => { store with emergencyStop := some s }

/-- A message as it comes off the wire. -/
inductive Inbound where
  | hazard (level : UInt8) (emergency holding : Bool)
  | odometry (speed : Float)
  | mode (code : UInt8)
  | comfortableStop (code : UInt8)
  | emergencyStop (code : UInt8)
  deriving Repr

namespace Inbound

/-- The value a message carries. -/
def read : Inbound → Except DecodeError Reading
  | hazard level emergency holding =>
    return .hazard ⟨← WireCode.ofCode level, emergency, holding⟩
  | odometry speed => return .speed speed
  | mode code => return .mode (← WireCode.ofCode code)
  | comfortableStop code => return .comfortableStop (← WireCode.ofCode code)
  | emergencyStop code => return .emergencyStop (← WireCode.ofCode code)

/-- The message in a dump. -/
def dump : Inbound → String
  | hazard level emergency holding =>
    Dump.choice "HazardStatus" (Dump.record "HazardStatusMsg"
      [("level", toString level), ("emergency", Dump.flag emergency),
        ("emergency_holding", Dump.flag holding)])
  | odometry speed =>
    Dump.choice "Odometry" (Dump.record "OdometryMsg" [("linear_x", Number.explicit speed)])
  | mode code =>
    Dump.choice "ControlMode" (Dump.record "ControlModeMsg" [("mode", toString code)])
  | comfortableStop code =>
    Dump.choice "ComfortableStopStatus" (Dump.record "BehaviorStatusMsg" [("state", toString code)])
  | emergencyStop code =>
    Dump.choice "EmergencyStopStatus" (Dump.record "BehaviorStatusMsg" [("state", toString code)])

/-- The notice of a message that is dropped. -/
def dropped (message : Inbound) (e : DecodeError) : LogEntry Float :=
  ⟨.warn, "dropping undecodable message", [("err", .text e.message), ("msg", .text message.dump)]⟩

end Inbound

namespace Store

/-- Take in one message. -/
def receive (store : Store) (now : Duration) (message : Inbound) : Except DecodeError Store :=
  message.read.map (store.record now)

/-- What a batch leaves behind. -/
structure Received where
  store : Store
  /-- How many messages were applied. -/
  applied : Nat := 0
  entries : List (LogEntry Float) := []

/-- **Take in a batch**, in order, dropping what cannot be decoded. -/
def receiveAll (store : Store) (now : Duration) (messages : List Inbound) : Received :=
  messages.foldl (fun got message =>
    match got.store.receive now message with
    | .ok store => { got with store := store, applied := got.applied + 1 }
    | .error e => { got with entries := got.entries ++ [message.dropped e] }) { store := store }

end Store

end DriveDecision
