import DriveDecision.Failsafe.System

/-!
# Failsafe/Inspection — the handler and its store in a dump
-/

namespace DriveDecision

def FailsafeSettings.dump (s : FailsafeSettings) : String :=
  Dump.record "EmergencyHandlerCfg"
    [("update_rate", toString s.updateRate),
      ("timeout_hazard_status", Number.explicit s.hazardTimeout),
      ("use_parking_after_stopped", Dump.flag s.parkAfterStop),
      ("use_comfortable_stop", Dump.flag s.useComfortableStop),
      ("turning_hazard_on",
        Dump.record "TurningHazardOn" [("emergency", Dump.flag s.hazardLightsOnEmergency)]),
      ("service_timeout", Number.explicit s.serviceTimeout)]

def ManeuverState.dump (s : ManeuverState) : String :=
  Dump.record "MrmState"
    [("state", s.phase.name), ("behavior", s.maneuver.name), ("stamp", s.stamp.text)]

def StampedReport.dump (r : StampedReport) : String :=
  Dump.record "HazardStatusStamped"
    [("stamp", r.stamp.text),
      ("status", Dump.record "HazardStatus"
        [("level", r.report.level.name), ("emergency", Dump.flag r.report.emergency),
          ("emergency_holding", Dump.flag r.report.holding)])]

/-- The store in a dump. -/
def Store.dump (store : Store) : String :=
  Dump.record "HazardSnapshotStore"
    [("snapshot", Dump.record "HazardSnapshot"
      [("hazard", Dump.option StampedReport.dump store.hazard),
        ("speed", Dump.option Number.explicit store.speed),
        ("control_mode", Dump.option ControlMode.name store.mode),
        ("comfortable_stop", Dump.option ModuleStatus.name store.comfortableStop),
        ("emergency_stop", Dump.option ModuleStatus.name store.emergencyStop)])]

/-- The handler in a dump. -/
def System.dump (system : System) : String :=
  Dump.record "EmergencyHandler"
    [("cfg", system.settings.dump), ("mrm_state", system.handler.state.dump)]

end DriveDecision
