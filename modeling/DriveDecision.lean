import DriveDecision.Number.Double
import DriveDecision.Number.Text
import DriveDecision.Signal.Swerve
import DriveDecision.Signal.Cycle
import DriveDecision.Time.Clock
import DriveDecision.Failsafe.Inspection
import DriveDecision.Service.Exchange
import DriveDecision.Host.Interface
import DriveDecision.Params.File
import DriveDecision.Proofs.Failsafe.History
import DriveDecision.Proofs.Failsafe.OpenCalls
import DriveDecision.Proofs.Failsafe.Commanded
import DriveDecision.Proofs.Signal.Cycles
import DriveDecision.Proofs.Signal.Hold
import DriveDecision.Proofs.Signal.Hysteresis
import DriveDecision.Proofs.Failsafe.Blocks
import DriveDecision.Proofs.Failsafe.Escalation
import DriveDecision.Proofs.Failsafe.Answers
import DriveDecision.Proofs.Signal.Anchoring
import DriveDecision.Host.Session
import DriveDecision.Proofs.Failsafe.Coherence
import DriveDecision.Proofs.Failsafe.Completion
import DriveDecision.Proofs.Signal.Origin
import DriveDecision.Proofs.Host.Supervision
import DriveDecision.Proofs.Failsafe.Skipping
import DriveDecision.Proofs.Host.Restart
import DriveDecision.Proofs.Service.Ledger
import DriveDecision.Proofs.Service.OwnReply
import DriveDecision.Proofs.Wire.LastWriter
import DriveDecision.Proofs.Number.Exact
import DriveDecision.Proofs.Signal.Arbitration
import DriveDecision.Proofs.Signal.Approach
import DriveDecision.Proofs.Signal.Flicker
import DriveDecision.Proofs.Signal.Merging
import DriveDecision.Proofs.Signal.Search
import DriveDecision.Proofs.Signal.Swerving
import DriveDecision.Proofs.Road.ArcLength
import DriveDecision.Proofs.Signal.LeadIn
import DriveDecision.Proofs.Failsafe.Silence
import DriveDecision.Proofs.Wire.RoundTrip
import DriveDecision.Proofs.Road.Neighbors
import DriveDecision.Proofs.Plane.Segments
import DriveDecision.Proofs.Plane.RayCasting
import DriveDecision.Proofs.Plane.Parallelogram
import DriveDecision.Proofs.Signal.Straddling
import DriveDecision.Proofs.Number.Negation
import DriveDecision.Proofs.Number.Least
import DriveDecision.Proofs.Number.Measuring
import DriveDecision.Proofs.Road.Closest
import DriveDecision.Proofs.Signal.Mirroring
import DriveDecision.Proofs.Plane.Polyline
import DriveDecision.Proofs.Signal.TurnEnding
import DriveDecision.Proofs.Access.Indexing
import DriveDecision.Proofs.Access.Distances
import DriveDecision.Proofs.Access.Centerlines
import DriveDecision.Proofs.Access.Decisions
import DriveDecision.Proofs.Road.Positions
import DriveDecision.Proofs.Road.Interpolation
import DriveDecision.Proofs.Road.Location
import DriveDecision.Proofs.Number.Remainder
import DriveDecision.Proofs.Plane.Wrapping
import DriveDecision.Proofs.Failsafe.Throttling
