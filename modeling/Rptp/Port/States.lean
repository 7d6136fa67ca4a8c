import Rptp.Bmca.Roles
import Rptp.Clock.Servo
import Rptp.Port.DelayMechanism

/-! # Port states, their profile and their handlers

Each state owns its collaborators: the role of the best master clock algorithm, timeouts, message
cycles, the delay mechanism and the servo. The profile builds a state with its timeouts already
armed. A state that is left hands its boundary, its algorithm parts and its profile over, and
everything else is dropped.
-/

namespace Rptp

open Machine

/-- Transition inputs of the port state machine. -/
inductive StateDecision where
  | initialized
  | masterClockSelected (parent : ParentPortIdentity)
  | recommendedSlave (parent : ParentPortIdentity)
  | recommendedMaster (decision : BmcaMasterDecision)
  | recommendedPassive
  | faultDetected
  | faultCleared
  | qualificationTimeoutExpired
  | announceReceiptTimeoutExpired
  | synchronizationFault
deriving DecidableEq

def BmcaDecision.toStateDecision : BmcaDecision → StateDecision
  | master decision => .recommendedMaster decision
  | slave parent => .recommendedSlave parent
  | passive => .recommendedPassive

structure PortProfile (F : Type) where
  announceReceiptTimeoutInterval : Duration
  logAnnounceInterval : LogInterval
  logSyncInterval : LogInterval
  logMinDelayRequestInterval : LogInterval
  servoConfig : ServoConfig F

def PortProfile.default {F : Type} : PortProfile F where
  announceReceiptTimeoutInterval := .fromSecs 5
  logAnnounceInterval := ⟨0, by decide⟩
  logSyncInterval := ⟨0, by decide⟩
  logMinDelayRequestInterval := ⟨0, by decide⟩
  servoConfig := .stepping

/-- The Announce cadence of a master. -/
structure AnnounceCycle where
  sequenceId : SequenceId
  timeout : Timeout
  logInterval : LogInterval

/-- The Sync cadence of a master. -/
structure SyncCycle where
  sequenceId : SequenceId
  timeout : Timeout
  logInterval : LogInterval

structure InitializingPort (F R : Type) extends BmcaParts R where
  port : DomainPort
  profile : PortProfile F

structure ListeningPort (F R : Type) where
  port : DomainPort
  bmca : ListeningBmca R
  announceReceiptTimeout : AnnounceReceiptTimeout
  profile : PortProfile F

/-- The common shape of the slave and the uncalibrated state. -/
structure ParentTrackingPort (F R : Type) where
  port : DomainPort
  bmca : ParentTrackingBmca R
  announceReceiptTimeout : AnnounceReceiptTimeout
  delayMechanism : EndToEndDelayMechanism
  servo : Servo F
  profile : PortProfile F

abbrev SlavePort (F R : Type) := ParentTrackingPort F R

abbrev UncalibratedPort (F R : Type) := ParentTrackingPort F R

structure MasterPort (F R : Type) where
  port : DomainPort
  bmca : GrandMasterTrackingBmca R
  announceCycle : AnnounceCycle
  syncCycle : SyncCycle
  logMinDelayRequestInterval : LogInterval
  profile : PortProfile F

structure PreMasterPort (F R : Type) where
  port : DomainPort
  bmca : GrandMasterTrackingBmca R
  qualificationTimeout : Timeout
  profile : PortProfile F

structure PassivePort (F R : Type) where
  port : DomainPort
  bmca : PassiveBmca R
  announceReceiptTimeout : AnnounceReceiptTimeout
  profile : PortProfile F

structure FaultyPort (F R : Type) extends BmcaParts R where
  port : DomainPort
  profile : PortProfile F

inductive PortState (F R : Type) where
  | initializing (port : InitializingPort F R)
  | listening (port : ListeningPort F R)
  | slave (port : SlavePort F R)
  | master (port : MasterPort F R)
  | preMaster (port : PreMasterPort F R)
  | uncalibrated (port : UncalibratedPort F R)
  | passive (port : PassivePort F R)
  | faulty (port : FaultyPort F R)

namespace PortProfile

variable {F R : Type} [F64 F]

def initializing (profile : PortProfile F) (port : DomainPort) (parts : BmcaParts R) :
    PortState F R :=
  .initializing ⟨parts, port, profile⟩

/-- A new announce receipt timeout, restarted. -/
def armedReceiptTimeout (env : Env) (profile : PortProfile F) (port : DomainPort) :
    AnnounceReceiptTimeout :=
  AnnounceReceiptTimeout.restart env
    ⟨port.timeout .announceReceiptTimeout, profile.announceReceiptTimeoutInterval⟩

def listening (env : Env) (profile : PortProfile F) (port : DomainPort) (bmca : ListeningBmca R) :
    PortState F R :=
  .listening ⟨port, bmca, profile.armedReceiptTimeout env port, profile⟩

def master (env : Env) (profile : PortProfile F) (port : DomainPort)
    (bmca : GrandMasterTrackingBmca R) : PortState F R :=
  let announceSendTimeout := (port.timeout .announceSendTimeout).restart env (.fromSecs 0)
  let syncTimeout := (port.timeout .syncTimeout).restart env (.fromSecs 0)
  .master ⟨port, bmca, ⟨⟨0⟩, announceSendTimeout, profile.logAnnounceInterval⟩,
    ⟨⟨0⟩, syncTimeout, profile.logSyncInterval⟩, profile.logMinDelayRequestInterval, profile⟩

def slave (env : Env) (profile : PortProfile F) (port : DomainPort) (bmca : ParentTrackingBmca R)
    (delayMechanism : EndToEndDelayMechanism) (servo : Servo F) : PortState F R :=
  .slave ⟨port, bmca, profile.armedReceiptTimeout env port, delayMechanism, servo, profile⟩

def preMaster (env : Env) (profile : PortProfile F) (port : DomainPort)
    (bmca : GrandMasterTrackingBmca R) (policy : QualificationTimeoutPolicy) : PortState F R :=
  let qualificationTimeout := (port.timeout .qualificationTimeout).restart env
    (policy.duration profile.logAnnounceInterval)
  .preMaster ⟨port, bmca, qualificationTimeout, profile⟩

def uncalibrated (env : Env) (profile : PortProfile F) (port : DomainPort)
    (bmca : ParentTrackingBmca R) : PortState F R :=
  let delayTimeout := (port.timeout .delayRequestTimeout).restart env (.fromSecs 0)
  let delayCycle : DelayCycle := ⟨⟨0⟩, delayTimeout, profile.logMinDelayRequestInterval⟩
  .uncalibrated ⟨port, bmca, profile.armedReceiptTimeout env port, .new delayCycle,
    profile.servoConfig.servo, profile⟩

def faulty (profile : PortProfile F) (port : DomainPort) (parts : BmcaParts R) : PortState F R :=
  .faulty ⟨parts, port, profile⟩

def passive (env : Env) (profile : PortProfile F) (port : DomainPort) (bmca : PassiveBmca R) :
    PortState F R :=
  .passive ⟨port, bmca, profile.armedReceiptTimeout env port, profile⟩

end PortProfile

/-- What a state hands over to its successor. -/
structure Handover (F R : Type) where
  port : DomainPort
  parts : BmcaParts R
  profile : PortProfile F

namespace Handover

variable {F R : Type} [F64 F] [ForeignClockRecords R]

def recommendedSlave (env : Env) (h : Handover F R) (parent : ParentPortIdentity) :
    PortState F R :=
  h.profile.uncalibrated env h.port ⟨h.parts, parent⟩

def recommendedMaster (env : Env) (h : Handover F R) (decision : BmcaMasterDecision) :
    PortState F R :=
  h.profile.preMaster env h.port ⟨h.parts, decision.grandmasterDs⟩
    ⟨decision.decisionPoint, decision.grandmasterDs.stepsRemoved⟩

def recommendedPassive (env : Env) (h : Handover F R) : PortState F R :=
  h.profile.passive env h.port ⟨h.parts⟩

def announceReceiptTimeoutExpired (env : Env) (h : Handover F R) :
    Act (Effect F) (PortState F R) := do
  let bmca ← h.parts.intoLocalGrandmasterTracking
  pure (h.profile.master env h.port bmca)

def faultDetected (h : Handover F R) : PortState F R := h.profile.faulty h.port h.parts

end Handover

section Handlers

variable {F R : Type} [F64 F] [ForeignClockRecords R]

/-- A state decision event is put to the role of the state. -/
def stateDecisionEvent (F : Type) {B : Type} [Bmca F B] (bmca : B)
    (snapshot : StateDecisionSnapshot) : Checked (B × Option StateDecision) := do
  let (bmca, decision) ← Bmca.decision F bmca snapshot.d0 snapshot.eBest
  pure (bmca, decision.map BmcaDecision.toStateDecision)

namespace InitializingPort

def initialized (env : Env) (p : InitializingPort F R) : PortState F R :=
  p.profile.listening env p.port ⟨p.toBmcaParts⟩

end InitializingPort

namespace ListeningPort

def handover (p : ListeningPort F R) : Handover F R := ⟨p.port, p.bmca.toBmcaParts, p.profile⟩

def recommendedSlave (env : Env) (p : ListeningPort F R) (parent : ParentPortIdentity) : PortState F R :=
  p.handover.recommendedSlave env parent

def recommendedMaster (env : Env) (p : ListeningPort F R) (decision : BmcaMasterDecision) :
    PortState F R :=
  p.handover.recommendedMaster env decision

def recommendedPassive (env : Env) (p : ListeningPort F R) : PortState F R :=
  p.handover.recommendedPassive env

def announceReceiptTimeoutExpired (env : Env) (p : ListeningPort F R) :
    Act (Effect F) (PortState F R) :=
  p.handover.announceReceiptTimeoutExpired env

def faultDetected (p : ListeningPort F R) : PortState F R := p.handover.faultDetected

def processAnnounce (env : Env) (p : ListeningPort F R) (msg : AnnounceMessage)
    (sourcePortIdentity : PortIdentity) (now : Instant) : Act (Effect F) (ListeningPort F R) := do
  let p := { p with announceReceiptTimeout := p.announceReceiptTimeout.restart env }
  let bmca ← msg.feedBmca p.bmca sourcePortIdentity now
  pure { p with bmca }

def stateDecisionEvent (p : ListeningPort F R) (snapshot : StateDecisionSnapshot) :
    Checked (ListeningPort F R × Option StateDecision) := do
  let (bmca, decision) ← Rptp.stateDecisionEvent F p.bmca snapshot
  pure ({ p with bmca }, decision)

end ListeningPort

namespace ParentTrackingPort

def handover (p : ParentTrackingPort F R) : Handover F R := ⟨p.port, p.bmca.toBmcaParts, p.profile⟩

def recommendedSlave (env : Env) (p : ParentTrackingPort F R) (parent : ParentPortIdentity) : PortState F R :=
  p.handover.recommendedSlave env parent

def recommendedMaster (env : Env) (p : ParentTrackingPort F R) (decision : BmcaMasterDecision) :
    PortState F R :=
  p.handover.recommendedMaster env decision

def recommendedPassive (env : Env) (p : ParentTrackingPort F R) : PortState F R :=
  p.handover.recommendedPassive env

def announceReceiptTimeoutExpired (env : Env) (p : ParentTrackingPort F R) :
    Act (Effect F) (PortState F R) :=
  p.handover.announceReceiptTimeoutExpired env

def faultDetected (p : ParentTrackingPort F R) : PortState F R := p.handover.faultDetected

def processAnnounce (env : Env) (p : ParentTrackingPort F R) (msg : AnnounceMessage)
    (sourcePortIdentity : PortIdentity) (now : Instant) :
    Act (Effect F) (ParentTrackingPort F R) := do
  let p := { p with announceReceiptTimeout := p.announceReceiptTimeout.restart env }
  let bmca ← msg.feedBmca p.bmca sourcePortIdentity now
  pure { p with bmca }

def stateDecisionEvent (p : ParentTrackingPort F R) (snapshot : StateDecisionSnapshot) :
    Checked (ParentTrackingPort F R × Option StateDecision) := do
  let (bmca, decision) ← Rptp.stateDecisionEvent F p.bmca snapshot
  pure ({ p with bmca }, decision)

/-- Feed a complete sample to the servo. The two states differ in what the answer means. -/
def feedServo (react : ServoState → Option StateDecision) (p : ParentTrackingPort F R) :
    Act (Effect F) (ParentTrackingPort F R × Option StateDecision) := do
  match ← Act.lift p.delayMechanism.sample with
  | some sample => do
    Act.emit (.servoFeed sample)
    let (servo, state) ← p.servo.feed sample
    pure ({ p with servo }, react state)
  | none => pure (p, none)

def processOneStepSync (react : PortIdentity → ServoState → Option StateDecision)
    (p : ParentTrackingPort F R) (sync : OneStepSyncMessage) (sourcePortIdentity : PortIdentity)
    (ingressTimestamp : TimeStamp) :
    Act (Effect F) (ParentTrackingPort F R × Option StateDecision) :=
  if p.bmca.matchesParent sourcePortIdentity then
    feedServo (react sourcePortIdentity)
      { p with delayMechanism := p.delayMechanism.recordOneStepSync sync ingressTimestamp }
  else pure (p, none)

def processTwoStepSync (p : ParentTrackingPort F R) (sync : TwoStepSyncMessage)
    (sourcePortIdentity : PortIdentity) (ingressTimestamp : TimeStamp) : ParentTrackingPort F R :=
  if p.bmca.matchesParent sourcePortIdentity then
    { p with delayMechanism := p.delayMechanism.recordTwoStepSync sync ingressTimestamp }
  else p

def processFollowUp (react : PortIdentity → ServoState → Option StateDecision)
    (p : ParentTrackingPort F R) (followUp : FollowUpMessage)
    (sourcePortIdentity : PortIdentity) :
    Act (Effect F) (ParentTrackingPort F R × Option StateDecision) :=
  if p.bmca.matchesParent sourcePortIdentity then
    feedServo (react sourcePortIdentity)
      { p with delayMechanism := p.delayMechanism.recordFollowUp followUp }
  else pure (p, none)

def processDelayRequest (p : ParentTrackingPort F R) (req : DelayRequestMessage)
    (egressTimestamp : TimeStamp) : ParentTrackingPort F R :=
  { p with delayMechanism := p.delayMechanism.recordDelayRequest req egressTimestamp }

def processDelayResponse (p : ParentTrackingPort F R) (resp : DelayResponseMessage)
    (sourcePortIdentity : PortIdentity) : ParentTrackingPort F R :=
  if p.bmca.matchesParent sourcePortIdentity then
    { p with delayMechanism := p.delayMechanism.recordDelayResponse resp }
  else p

def sendDelayRequest (env : Env) (p : ParentTrackingPort F R) :
    Act (Effect F) (ParentTrackingPort F R × SendResult) := do
  let (delayMechanism, delayRequest) := p.delayMechanism.delayRequest env
  let p := { p with delayMechanism }
  let result ← p.port.sendEvent env (.delayReq delayRequest)
  pure (p, result)

end ParentTrackingPort

namespace SlavePort

/-- A slave that is no longer locked has a synchronization fault. -/
def react (_ : PortIdentity) : ServoState → Option StateDecision
  | .locked => none
  | _ => some .synchronizationFault

def processOneStepSync (p : SlavePort F R) (sync : OneStepSyncMessage)
    (sourcePortIdentity : PortIdentity) (ingressTimestamp : TimeStamp) :
    Act (Effect F) (SlavePort F R × Option StateDecision) :=
  ParentTrackingPort.processOneStepSync react p sync sourcePortIdentity ingressTimestamp

def processFollowUp (p : SlavePort F R) (followUp : FollowUpMessage)
    (sourcePortIdentity : PortIdentity) : Act (Effect F) (SlavePort F R × Option StateDecision) :=
  ParentTrackingPort.processFollowUp react p followUp sourcePortIdentity

/-- The slave keeps everything it has when it loses lock. -/
def synchronizationFault (p : SlavePort F R) : PortState F R := .uncalibrated p

end SlavePort

namespace UncalibratedPort

/-- An uncalibrated port whose servo locks has selected its master. -/
def react (sourcePortIdentity : PortIdentity) : ServoState → Option StateDecision
  | .locked => some (.masterClockSelected ⟨sourcePortIdentity⟩)
  | _ => none

def processOneStepSync (p : UncalibratedPort F R) (sync : OneStepSyncMessage)
    (sourcePortIdentity : PortIdentity) (ingressTimestamp : TimeStamp) :
    Act (Effect F) (UncalibratedPort F R × Option StateDecision) :=
  ParentTrackingPort.processOneStepSync react p sync sourcePortIdentity ingressTimestamp

def processFollowUp (p : UncalibratedPort F R) (followUp : FollowUpMessage)
    (sourcePortIdentity : PortIdentity) :
    Act (Effect F) (UncalibratedPort F R × Option StateDecision) :=
  ParentTrackingPort.processFollowUp react p followUp sourcePortIdentity

def masterClockSelected (env : Env) (p : UncalibratedPort F R) (_ : ParentPortIdentity) :
    PortState F R :=
  p.profile.slave env p.port p.bmca p.delayMechanism p.servo

end UncalibratedPort

namespace AnnounceCycle

def next (env : Env) (c : AnnounceCycle) : AnnounceCycle :=
  { c with
    timeout := c.timeout.restart env c.logInterval.duration
    sequenceId := c.sequenceId.next }

def announce (env : Env) (c : AnnounceCycle) (grandmasterDs : ClockDS) : AnnounceMessage :=
  ⟨c.sequenceId, c.logInterval.logMessageInterval, grandmasterDs, env.timeScale⟩

end AnnounceCycle

namespace SyncCycle

def next (env : Env) (c : SyncCycle) : SyncCycle :=
  { c with
    timeout := c.timeout.restart env c.logInterval.duration
    sequenceId := c.sequenceId.next }

def twoStepSync (c : SyncCycle) : TwoStepSyncMessage :=
  ⟨c.sequenceId, c.logInterval.logMessageInterval⟩

end SyncCycle

namespace MasterPort

def handover (p : MasterPort F R) : Handover F R := ⟨p.port, p.bmca.toBmcaParts, p.profile⟩

def recommendedSlave (env : Env) (p : MasterPort F R) (parent : ParentPortIdentity) : PortState F R :=
  p.handover.recommendedSlave env parent

def recommendedMaster (env : Env) (p : MasterPort F R) (decision : BmcaMasterDecision) :
    PortState F R :=
  p.handover.recommendedMaster env decision

def recommendedPassive (env : Env) (p : MasterPort F R) : PortState F R :=
  p.handover.recommendedPassive env

def faultDetected (p : MasterPort F R) : PortState F R := p.handover.faultDetected

def processAnnounce (p : MasterPort F R) (msg : AnnounceMessage)
    (sourcePortIdentity : PortIdentity) (now : Instant) : Act (Effect F) (MasterPort F R) := do
  let bmca ← msg.feedBmca p.bmca sourcePortIdentity now
  pure { p with bmca }

def stateDecisionEvent (p : MasterPort F R) (snapshot : StateDecisionSnapshot) :
    Checked (MasterPort F R × Option StateDecision) := do
  let (bmca, decision) ← Rptp.stateDecisionEvent F p.bmca snapshot
  pure ({ p with bmca }, decision)

/-- The cycle advances only after a successful send. -/
def sendAnnounce (env : Env) (p : MasterPort F R) :
    Act (Effect F) (MasterPort F R × SendResult) := do
  let msg := p.announceCycle.announce env p.bmca.grandmasterDs
  match ← p.port.sendGeneral env (.announce msg) with
  | .ok () => pure ({ p with announceCycle := p.announceCycle.next env }, .ok ())
  | .error e => pure (p, .error e)

def sendSync (env : Env) (p : MasterPort F R) : Act (Effect F) (MasterPort F R × SendResult) := do
  match ← p.port.sendEvent env (.twoStepSync p.syncCycle.twoStepSync) with
  | .ok () => pure ({ p with syncCycle := p.syncCycle.next env }, .ok ())
  | .error e => pure (p, .error e)

def sendFollowUp (env : Env) (p : MasterPort F R) (sync : TwoStepSyncMessage)
    (egressTimestamp : TimeStamp) : Act (Effect F) SendResult :=
  p.port.sendGeneral env (.followUp (sync.followUp egressTimestamp))

def processDelayRequest (env : Env) (p : MasterPort F R) (req : DelayRequestMessage)
    (ingressTimestamp : TimeStamp) (requestingPortIdentity : PortIdentity) :
    Act (Effect F) SendResult :=
  p.port.sendGeneral env (.delayResp (req.response
    p.logMinDelayRequestInterval.logMessageInterval ingressTimestamp requestingPortIdentity))

end MasterPort

namespace PreMasterPort

def handover (p : PreMasterPort F R) : Handover F R := ⟨p.port, p.bmca.toBmcaParts, p.profile⟩

def recommendedSlave (env : Env) (p : PreMasterPort F R) (parent : ParentPortIdentity) : PortState F R :=
  p.handover.recommendedSlave env parent

def recommendedMaster (env : Env) (p : PreMasterPort F R) (decision : BmcaMasterDecision) :
    PortState F R :=
  p.handover.recommendedMaster env decision

def recommendedPassive (env : Env) (p : PreMasterPort F R) : PortState F R :=
  p.handover.recommendedPassive env

def faultDetected (p : PreMasterPort F R) : PortState F R := p.handover.faultDetected

def processAnnounce (p : PreMasterPort F R) (msg : AnnounceMessage)
    (sourcePortIdentity : PortIdentity) (now : Instant) : Act (Effect F) (PreMasterPort F R) := do
  let bmca ← msg.feedBmca p.bmca sourcePortIdentity now
  pure { p with bmca }

def stateDecisionEvent (p : PreMasterPort F R) (snapshot : StateDecisionSnapshot) :
    Checked (PreMasterPort F R × Option StateDecision) := do
  let (bmca, decision) ← Rptp.stateDecisionEvent F p.bmca snapshot
  pure ({ p with bmca }, decision)

def qualified (env : Env) (p : PreMasterPort F R) : PortState F R :=
  p.profile.master env p.port p.bmca

end PreMasterPort

namespace PassivePort

def handover (p : PassivePort F R) : Handover F R := ⟨p.port, p.bmca.toBmcaParts, p.profile⟩

def recommendedSlave (env : Env) (p : PassivePort F R) (parent : ParentPortIdentity) : PortState F R :=
  p.handover.recommendedSlave env parent

def recommendedMaster (env : Env) (p : PassivePort F R) (decision : BmcaMasterDecision) :
    PortState F R :=
  p.handover.recommendedMaster env decision

def announceReceiptTimeoutExpired (env : Env) (p : PassivePort F R) :
    Act (Effect F) (PortState F R) :=
  p.handover.announceReceiptTimeoutExpired env

def faultDetected (p : PassivePort F R) : PortState F R := p.handover.faultDetected

def processAnnounce (env : Env) (p : PassivePort F R) (msg : AnnounceMessage)
    (sourcePortIdentity : PortIdentity) (now : Instant) : Act (Effect F) (PassivePort F R) := do
  let p := { p with announceReceiptTimeout := p.announceReceiptTimeout.restart env }
  let bmca ← msg.feedBmca p.bmca sourcePortIdentity now
  pure { p with bmca }

def stateDecisionEvent (p : PassivePort F R) (snapshot : StateDecisionSnapshot) :
    Checked (PassivePort F R × Option StateDecision) := do
  let (bmca, decision) ← Rptp.stateDecisionEvent F p.bmca snapshot
  pure ({ p with bmca }, decision)

end PassivePort

namespace FaultyPort

def faultCleared (p : FaultyPort F R) : PortState F R :=
  p.profile.initializing p.port p.toBmcaParts

end FaultyPort

end Handlers

end Rptp
