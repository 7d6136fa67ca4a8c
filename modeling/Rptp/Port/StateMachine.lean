import Rptp.Port.States

/-! # The port state machine

`dispatch` routes a message to the handler of the current state, which may answer with a decision.
`apply` performs the transition and panics on a decision that the state does not admit.
-/

namespace Rptp

open Machine

variable {F R : Type} [F64 F] [ForeignClockRecords R]

namespace PortState

/-- Perform a transition. -/
def apply (env : Env) (state : PortState F R) :
    StateDecision → Act (Effect F) (PortState F R)
  | .announceReceiptTimeoutExpired =>
    match state with
    | .listening p => p.announceReceiptTimeoutExpired env
    | .slave p => p.announceReceiptTimeoutExpired env
    | .uncalibrated p => p.announceReceiptTimeoutExpired env
    | .passive p => p.announceReceiptTimeoutExpired env
    | _ => Act.abort (.message "AnnounceReceiptTimeoutExpired can only be applied in Listening, Slave, Uncalibrated, or Passive states")
  | .masterClockSelected parent =>
    match state with
    | .uncalibrated p => pure (UncalibratedPort.masterClockSelected env p parent)
    | _ => Act.abort (.message "MasterClockSelected can only be applied in Uncalibrated state")
  | .recommendedSlave decision =>
    match state with
    | .listening p => pure (p.recommendedSlave env decision)
    | .master p => pure (p.recommendedSlave env decision)
    | .preMaster p => pure (p.recommendedSlave env decision)
    | .slave p => pure (p.recommendedSlave env decision)
    | .uncalibrated p => pure (p.recommendedSlave env decision)
    | .passive p => pure (p.recommendedSlave env decision)
    | _ => Act.abort (.message "RecommendedSlave can only be applied in Listening, Master, PreMaster, Slave, Uncalibrated, or Passive states")
  | .recommendedMaster decision =>
    match state with
    | .listening p => pure (p.recommendedMaster env decision)
    | .uncalibrated p => pure (p.recommendedMaster env decision)
    | .master p => pure (p.recommendedMaster env decision)
    | .slave p => pure (p.recommendedMaster env decision)
    | .preMaster p => pure (p.recommendedMaster env decision)
    | .passive p => pure (p.recommendedMaster env decision)
    | _ => Act.abort (.message "RecommendedMaster can only be applied in Listening, Uncalibrated, Master, PreMaster, Slave, or Passive states")
  | .recommendedPassive =>
    match state with
    | .listening p => pure (p.recommendedPassive env)
    | .master p => pure (p.recommendedPassive env)
    | .preMaster p => pure (p.recommendedPassive env)
    | .slave p => pure (p.recommendedPassive env)
    | .uncalibrated p => pure (p.recommendedPassive env)
    | _ => Act.abort (.message "RecommendedPassive can only be applied in Listening, Master, PreMaster, Slave, or Uncalibrated states")
  | .initialized =>
    match state with
    | .initializing p => pure (p.initialized env)
    | _ => Act.abort (.message "Initialized can only be applied in Initializing state")
  | .qualificationTimeoutExpired =>
    match state with
    | .preMaster p => pure (p.qualified env)
    | _ => Act.abort (.message "QualificationTimeoutExpired can only be applied in PreMaster state")
  | .synchronizationFault =>
    match state with
    | .slave p => pure (SlavePort.synchronizationFault p)
    | _ => Act.abort (.message "SynchronizationFault can only be applied in Slave state")
  | .faultDetected =>
    match state with
    | .listening p => pure p.faultDetected
    | .slave p => pure p.faultDetected
    | .master p => pure p.faultDetected
    | .preMaster p => pure p.faultDetected
    | .uncalibrated p => pure p.faultDetected
    | .passive p => pure p.faultDetected
    | .faulty p => pure (.faulty p)
    | .initializing _ => Act.abort (.message "FaultDetected cannot be applied in Initializing state")
  | .faultCleared =>
    match state with
    | .faulty p => pure p.faultCleared
    | _ => Act.abort (.message "FaultCleared can only be applied in Faulty state")

/-- A refused send is a fault. -/
def sendDecision : SendResult → Option StateDecision
  | .ok () => none
  | .error _ => some .faultDetected

def dispatchEvent (env : Env) (state : PortState F R) (msg : EventMessage)
    (sourcePortIdentity : PortIdentity) (ingressTimestamp : TimeStamp) :
    Act (Effect F) (PortState F R × Option StateDecision) :=
  match state, msg with
  | .uncalibrated p, .oneStepSync msg => do
    let (p, decision) ← UncalibratedPort.processOneStepSync p msg sourcePortIdentity ingressTimestamp
    pure (.uncalibrated p, decision)
  | .uncalibrated p, .twoStepSync msg =>
    pure (.uncalibrated (p.processTwoStepSync msg sourcePortIdentity ingressTimestamp), none)
  | .slave p, .oneStepSync msg => do
    let (p, decision) ← SlavePort.processOneStepSync p msg sourcePortIdentity ingressTimestamp
    pure (.slave p, decision)
  | .slave p, .twoStepSync msg =>
    pure (.slave (p.processTwoStepSync msg sourcePortIdentity ingressTimestamp), none)
  | .master p, .delayReq msg => do
    let result ← p.processDelayRequest env msg ingressTimestamp sourcePortIdentity
    pure (.master p, sendDecision result)
  | state, _ => pure (state, none)

def dispatchGeneral (env : Env) (state : PortState F R) (msg : GeneralMessage)
    (sourcePortIdentity : PortIdentity) (now : Instant) :
    Act (Effect F) (PortState F R × Option StateDecision) :=
  match state, msg with
  | .listening p, .announce msg => do
    let p ← p.processAnnounce env msg sourcePortIdentity now
    pure (.listening p, none)
  | .slave p, .announce msg => do
    let p ← p.processAnnounce env msg sourcePortIdentity now
    pure (.slave p, none)
  | .master p, .announce msg => do
    let p ← p.processAnnounce msg sourcePortIdentity now
    pure (.master p, none)
  | .preMaster p, .announce msg => do
    let p ← p.processAnnounce msg sourcePortIdentity now
    pure (.preMaster p, none)
  | .uncalibrated p, .announce msg => do
    let p ← p.processAnnounce env msg sourcePortIdentity now
    pure (.uncalibrated p, none)
  | .uncalibrated p, .followUp msg => do
    let (p, decision) ← UncalibratedPort.processFollowUp p msg sourcePortIdentity
    pure (.uncalibrated p, decision)
  | .uncalibrated p, .delayResp msg =>
    pure (.uncalibrated (p.processDelayResponse msg sourcePortIdentity), none)
  | .slave p, .followUp msg => do
    let (p, decision) ← SlavePort.processFollowUp p msg sourcePortIdentity
    pure (.slave p, decision)
  | .slave p, .delayResp msg =>
    pure (.slave (p.processDelayResponse msg sourcePortIdentity), none)
  | .passive p, .announce msg => do
    let p ← p.processAnnounce env msg sourcePortIdentity now
    pure (.passive p, none)
  | state, _ => pure (state, none)

def dispatchSystem (env : Env) (state : PortState F R) (msg : SystemMessage) :
    Act (Effect F) (PortState F R × Option StateDecision) :=
  match state, msg with
  | .master p, .announceSendTimeout => do
    let (p, result) ← p.sendAnnounce env
    pure (.master p, sendDecision result)
  | .slave p, .delayRequestTimeout => do
    let (p, result) ← p.sendDelayRequest env
    pure (.slave p, sendDecision result)
  | .uncalibrated p, .delayRequestTimeout => do
    let (p, result) ← p.sendDelayRequest env
    pure (.uncalibrated p, sendDecision result)
  | .master p, .syncTimeout => do
    let (p, result) ← p.sendSync env
    pure (.master p, sendDecision result)
  | .master p, .timestamp ⟨.twoStepSync syncMsg, egressTimestamp⟩ => do
    let result ← p.sendFollowUp env syncMsg egressTimestamp
    pure (.master p, sendDecision result)
  | .slave p, .timestamp ⟨.delayReq reqMsg, egressTimestamp⟩ =>
    pure (.slave (p.processDelayRequest reqMsg egressTimestamp), none)
  | .uncalibrated p, .timestamp ⟨.delayReq reqMsg, egressTimestamp⟩ =>
    pure (.uncalibrated (p.processDelayRequest reqMsg egressTimestamp), none)
  | .initializing p, .initialized => pure (.initializing p, some .initialized)
  | .listening p, .announceReceiptTimeout =>
    pure (.listening p, some .announceReceiptTimeoutExpired)
  | .slave p, .announceReceiptTimeout => pure (.slave p, some .announceReceiptTimeoutExpired)
  | .master p, .announceReceiptTimeout => pure (.master p, some .announceReceiptTimeoutExpired)
  | .uncalibrated p, .announceReceiptTimeout =>
    pure (.uncalibrated p, some .announceReceiptTimeoutExpired)
  | .passive p, .announceReceiptTimeout => pure (.passive p, some .announceReceiptTimeoutExpired)
  | .preMaster p, .qualificationTimeout =>
    pure (.preMaster p, some .qualificationTimeoutExpired)
  | .faulty p, .faultCleared => pure (.faulty p, some .faultCleared)
  | .listening p, .stateDecisionEvent snapshot => do
    let (p, decision) ← Act.lift (p.stateDecisionEvent snapshot)
    pure (.listening p, decision)
  | .slave p, .stateDecisionEvent snapshot => do
    let (p, decision) ← Act.lift (p.stateDecisionEvent snapshot)
    pure (.slave p, decision)
  | .master p, .stateDecisionEvent snapshot => do
    let (p, decision) ← Act.lift (p.stateDecisionEvent snapshot)
    pure (.master p, decision)
  | .uncalibrated p, .stateDecisionEvent snapshot => do
    let (p, decision) ← Act.lift (p.stateDecisionEvent snapshot)
    pure (.uncalibrated p, decision)
  | .passive p, .stateDecisionEvent snapshot => do
    let (p, decision) ← Act.lift (p.stateDecisionEvent snapshot)
    pure (.passive p, decision)
  | .preMaster p, .stateDecisionEvent snapshot => do
    let (p, decision) ← Act.lift (p.stateDecisionEvent snapshot)
    pure (.preMaster p, decision)
  | state, _ => pure (state, none)

end PortState

/-- A message for a port, with what the infrastructure measured on it. -/
inductive PortInput where
  | event (sourcePortIdentity : PortIdentity) (msg : EventMessage) (timestamp : TimeStamp)
  | general (sourcePortIdentity : PortIdentity) (msg : GeneralMessage) (now : Instant)
  | system (msg : SystemMessage)
deriving DecidableEq

/-- Route a message to the handler of the current state. -/
def PortState.dispatch (env : Env) (state : PortState F R) :
    PortInput → Act (Effect F) (PortState F R × Option StateDecision)
  | .event source msg timestamp => state.dispatchEvent env msg source timestamp
  | .general source msg now => state.dispatchGeneral env msg source now
  | .system msg => state.dispatchSystem env msg

/-- The driver of a port. Its state is taken out while a transition is performed. -/
structure PortFsm (F R : Type) where
  state : Option (PortState F R)

namespace PortFsm

def new (state : PortState F R) : PortFsm F R := ⟨some state⟩

def applyDecision (env : Env) (fsm : PortFsm F R) (decision : StateDecision) :
    Act (Effect F) (PortFsm F R) :=
  match fsm.state with
  | some currentState => do
    let state ← currentState.apply env decision
    pure ⟨some state⟩
  | none => pure fsm

/-- Dispatch, then perform the transition if there is one. -/
def process (env : Env) (fsm : PortFsm F R) (input : PortInput) : Act (Effect F) (PortFsm F R) :=
  match fsm.state with
  | some state => do
    let (state, decision) ← state.dispatch env input
    match decision with
    | some decision => applyDecision env ⟨some state⟩ decision
    | none => pure ⟨some state⟩
  | none => pure fsm

def processEventMessage (env : Env) (fsm : PortFsm F R) (sourcePortIdentity : PortIdentity)
    (msg : EventMessage) (timestamp : TimeStamp) : Act (Effect F) (PortFsm F R) :=
  fsm.process env (.event sourcePortIdentity msg timestamp)

def processGeneralMessage (env : Env) (fsm : PortFsm F R) (sourcePortIdentity : PortIdentity)
    (msg : GeneralMessage) (now : Instant) : Act (Effect F) (PortFsm F R) :=
  fsm.process env (.general sourcePortIdentity msg now)

def processSystemMessage (env : Env) (fsm : PortFsm F R) (msg : SystemMessage) :
    Act (Effect F) (PortFsm F R) :=
  fsm.process env (.system msg)

end PortFsm

end Rptp
