import Rptp.Machine.Run
import Rptp.Machine.Relation
import Rptp.Machine.Keyed
import Rptp.Time.Arithmetic
import Rptp.Clock.Order
import Rptp.Message.RoundTrip
import Rptp.Bmca.Agreement
import Rptp.Port.StateMachine
import Rptp.Port.Legality
import Rptp.Port.Coherence
import Rptp.Port.Sound
import Rptp.Port.Multicast
import Rptp.Port.TrueOffset
import Rptp.Node.Boundary
import Rptp.Node.SingleSlave
import Rptp.Node.Silence
import Rptp.Node.Safety
import Rptp.Foreign.History
import Rptp.Foreign.Best
import Rptp.Foreign.Faithful
import Rptp.Node.Candidates
import Rptp.Port.Reports
import Rptp.Node.Broadcast
import Rptp.Node.Pending
import Rptp.Port.DelayHistory
import Rptp.Port.Provenance
import Rptp.Port.NonParent
import Rptp.Port.SyncOnce
import Rptp.Port.Requests
import Rptp.Port.Pairing
import Rptp.Node.DeadParent
import Rptp.Clock.Image
import Rptp.Clock.Mirror
import Rptp.Foreign.Bounded
import Rptp.Node.Authoritative
import Rptp.Port.FollowUps
import Rptp.Port.Timers
import Rptp.Port.Repeated
import Rptp.Port.Reordered
import Rptp.Port.ReceiptDeadline
import Rptp.Port.ExactOffset
import Rptp.Node.Numbering
import Rptp.Clock.Calibration
import Rptp.Clock.ServoRun
import Rptp.Clock.DriftSign
import Rptp.Machine.Pool
import Rptp.Machine.Recurrence
import Rptp.Port.Sends
import Rptp.Port.Evidence
import Rptp.Port.Cadence
import Rptp.Port.Heritage
import Rptp.Network.Clock
import Rptp.Network.Informed
import Rptp.Network.Lineage
import Rptp.Network.Election
import Rptp.Network.Evidence
import Rptp.Network.Measurement
import Rptp.Message.NormalForm
import Rptp.Daemon.Loop
import Rptp.Daemon.Decisions
import Rptp.Daemon.Faults
import Rptp.Daemon.Stamping
import Rptp.Daemon.Timeouts
import Rptp.Daemon.VirtualClock
import Rptp.Daemon.Discipline
import Rptp.Daemon.Network
