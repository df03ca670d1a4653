import Netherwick.Lib.Prog
import Netherwick.Lib.Deque
import Netherwick.Lib.Clock
import Netherwick.Lib.History
import Netherwick.Brainstem.MailboxRoundTrip
import Netherwick.Brainstem.MotionGate
import Netherwick.Brainstem.PowerLine
import Netherwick.Brainstem.WakeProbe
import Netherwick.Brainstem.SessionIdentity
import Netherwick.Brainstem.RegistryTruth
import Netherwick.Brainstem.AuthorityLanes
import Netherwick.Brainstem.LeaseClock
import Netherwick.Brainstem.EscapeDirection
import Netherwick.Brainstem.HazardGeneration
import Netherwick.Brainstem.LatchStability
import Netherwick.HigherBrain.Failback
import Netherwick.Cockpit.Handshake
import Netherwick.Cockpit.MotorGate
import Netherwick.Cockpit.UartCorrelation
import Netherwick.Cockpit.EventDelivery
import Netherwick.HigherBrain.CandidateRetention
import Netherwick.HigherBrain.JobCancellation
import Netherwick.HigherBrain.CoordinatorRuns
import Netherwick.Skills.Arbitration
import Netherwick.Skills.Envelope
import Netherwick.Ledger.Jsonl
import Netherwick.Ledger.Rolling
import Netherwick.RealRobot.Clock
import Netherwick.RealRobot.RecoveryReconciliation
import Netherwick.Conductor.AttemptAccounts
import Netherwick.Sleep.Consumption
import Netherwick.Neat.Evolution
import Netherwick.Observatory.Views
import Netherwick.Observatory.StreamAccounts
import Netherwick.Reign.HardwareGate
import Netherwick.Observatory.Accepted
import Netherwick.Observatory.DurableRecovery
import Netherwick.Observatory.DurableOrder
import Netherwick.Observatory.PagedHub
import Netherwick.Observatory.PagedAccounts
import Netherwick.Observatory.Restarts
import Netherwick.Cockpit.BusyRetry
import Netherwick.Cockpit.ContractLimits
import Netherwick.Cockpit.SafeCockpit
import Netherwick.Cockpit.CompactLines
import Netherwick.Neat.Founders
import Netherwick.Lib.Binary32
import Netherwick.Lib.Delivery
import Netherwick.Neat.Quotas
import Netherwick.Neat.Panics
import Netherwick.Neat.Species
import Netherwick.Neat.Champion
import Netherwick.Neat.Bookkeeping
import Netherwick.Neat.Elites
import Netherwick.Map.Geometry
import Netherwick.Map.PoseGraph
import Netherwick.Map.LocalMap
import Netherwick.Map.Integrity
import Netherwick.Map.Decay
import Netherwick.Lib.Ring
import Netherwick.Skills.Trace
import Netherwick.Nudge.Discipline
import Netherwick.Navigation.Escape
import Netherwick.Semantic.Identity
import Netherwick.Epistemic.Closing
import Netherwick.Calibration.Trust
import Netherwick.Cognition.Lifecycle
import Netherwick.Neat.Ranking
import Netherwick.Observatory.ProvenanceAccounts
import Netherwick.Brainstem.ImuInclination
import Netherwick.Brainstem.AudioAccounts
import Netherwick.Brainstem.MailboxOrder
import Netherwick.Cockpit.Envelope
import Netherwick.Brainstem.Icmp
import Netherwick.Brainstem.Discovery
import Netherwick.Brainstem.UartParser
