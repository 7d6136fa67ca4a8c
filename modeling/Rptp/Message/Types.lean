import Rptp.Foreign.Record
import Rptp.Time.Stamp

/-! # Event, general and system messages -/

namespace Rptp

open Machine

/-- A 16-bit sequence identifier that wraps. -/
structure SequenceId where
  id : UInt16
deriving DecidableEq

namespace SequenceId

def next (s : SequenceId) : SequenceId := ⟨s.id + 1⟩

end SequenceId

structure AnnounceMessage where
  sequenceId : SequenceId
  logMessageInterval : LogMessageInterval
  foreignClockDs : ClockDS
  ptpTimescale : TimeScale
deriving DecidableEq

structure OneStepSyncMessage where
  sequenceId : SequenceId
  logMessageInterval : LogMessageInterval
  originTimestamp : TimeStamp
deriving DecidableEq

structure TwoStepSyncMessage where
  sequenceId : SequenceId
  logMessageInterval : LogMessageInterval
deriving DecidableEq

structure FollowUpMessage where
  sequenceId : SequenceId
  logMessageInterval : LogMessageInterval
  preciseOriginTimestamp : TimeStamp
deriving DecidableEq

structure DelayRequestMessage where
  sequenceId : SequenceId
deriving DecidableEq

structure DelayResponseMessage where
  sequenceId : SequenceId
  logMessageInterval : LogMessageInterval
  receiveTimestamp : TimeStamp
  requestingPortIdentity : PortIdentity
deriving DecidableEq

namespace OneStepSyncMessage

def masterSlaveOffset (m : OneStepSyncMessage) (ingressTimestamp : TimeStamp) :
    Checked TimeInterval :=
  ingressTimestamp.sub m.originTimestamp

end OneStepSyncMessage

namespace TwoStepSyncMessage

/-- The FollowUp of this Sync, with the same sequence identifier. -/
def followUp (m : TwoStepSyncMessage) (preciseOriginTimestamp : TimeStamp) : FollowUpMessage :=
  ⟨m.sequenceId, m.logMessageInterval, preciseOriginTimestamp⟩

end TwoStepSyncMessage

namespace FollowUpMessage

/-- The offset of a two-step pair, or nothing if the sequence identifiers differ. -/
def masterSlaveOffset (m : FollowUpMessage) (sync : TwoStepSyncMessage)
    (syncIngressTimestamp : TimeStamp) : Checked (Option TimeInterval) :=
  if m.sequenceId = sync.sequenceId then
    some <$> syncIngressTimestamp.sub m.preciseOriginTimestamp
  else pure none

end FollowUpMessage

namespace DelayRequestMessage

/-- The master's answer, which carries the identity of the requester. -/
def response (m : DelayRequestMessage) (logMessageInterval : LogMessageInterval)
    (receiveTimestamp : TimeStamp) (requestingPortIdentity : PortIdentity) :
    DelayResponseMessage :=
  ⟨m.sequenceId, logMessageInterval, receiveTimestamp, requestingPortIdentity⟩

end DelayRequestMessage

namespace DelayResponseMessage

/-- The offset of a delay exchange, or nothing if the sequence identifiers differ. -/
def slaveMasterOffset (m : DelayResponseMessage) (delayReq : DelayRequestMessage)
    (delayReqEgressTimestamp : TimeStamp) : Checked (Option TimeInterval) :=
  if m.sequenceId = delayReq.sequenceId then
    some <$> m.receiveTimestamp.sub delayReqEgressTimestamp
  else pure none

end DelayResponseMessage

inductive EventMessage where
  | delayReq (msg : DelayRequestMessage)
  | oneStepSync (msg : OneStepSyncMessage)
  | twoStepSync (msg : TwoStepSyncMessage)
deriving DecidableEq

inductive GeneralMessage where
  | announce (msg : AnnounceMessage)
  | delayResp (msg : DelayResponseMessage)
  | followUp (msg : FollowUpMessage)
deriving DecidableEq

/-- Egress timestamp feedback for an event message that was sent. -/
structure TimestampMessage where
  eventMsg : EventMessage
  egressTimestamp : TimeStamp
deriving DecidableEq

/-- The inputs of a state decision, the same for all ports of a clock. -/
structure StateDecisionSnapshot where
  d0 : ClockDS
  eBest : BestForeignSnapshot
deriving DecidableEq

/-- Messages of the infrastructure: timeouts, timestamps, initialization and decisions. -/
inductive SystemMessage where
  | announceSendTimeout
  | delayRequestTimeout
  | syncTimeout
  | timestamp (msg : TimestampMessage)
  | initialized
  | faultCleared
  | announceReceiptTimeout
  | qualificationTimeout
  | stateDecisionEvent (snapshot : StateDecisionSnapshot)
deriving DecidableEq

end Rptp
