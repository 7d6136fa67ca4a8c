import Rptp.Message.Wire

/-! # The infrastructure of a port

A port calls its physical port, its timestamping, its local clock and its clock's state decision
event. Each call is an `Effect`. What the infrastructure answers during one step is an `Env`. A
timeout is a handle with its deadline, and a handle that is dropped is cancelled. The port's log is
left out: nothing reads it back.
-/

namespace Rptp

open Machine

structure SendError where
deriving DecidableEq

abbrev SendResult := Except SendError Unit

/-- A sample of the offset from the master, taken at a Sync ingress. -/
structure ServoSample where
  ingress : TimeStamp
  offset : TimeInterval
deriving DecidableEq

/-- The calls of a port, in the order it makes them. `servoFeed` is the call of the port on its
servo. -/
inductive Effect (F : Type) where
  | sendEvent (msg : EventMessage) (buf : List UInt8) (result : SendResult)
  | sendGeneral (msg : GeneralMessage) (buf : List UInt8) (result : SendResult)
  | stampEgress (msg : EventMessage)
  | servoFeed (sample : ServoSample)
  | recordOffsetFromMaster (offset : TimeInterval)
  | step (ts : TimeStamp)
  | adjust (rate : F)
  | trigger (port : PortNumber) (eRbest : BestForeignSnapshot)

namespace Effect

variable {F : Type}

/-- A send that the physical port refused. -/
def FailedSend : Effect F → Prop
  | sendEvent _ _ (.error _) => True
  | sendGeneral _ _ (.error _) => True
  | _ => False

end Effect

/-- The answers of the infrastructure during one step: the instant at which timers are restarted,
the time scale of the local clock and the outcome of a send. -/
structure Env where
  now : Instant
  timeScale : TimeScale
  sendResult : SendResult

/-- An environment in which every send succeeds. -/
def Env.calm (now : Instant) : Env := ⟨now, .ptp, .ok ()⟩

/-- A one-shot timeout handle with the message that it delivers. -/
structure Timeout where
  msg : SystemMessage
  deadline : Option Instant
deriving DecidableEq

namespace Timeout

def restart (env : Env) (t : Timeout) (timeout : Duration) : Timeout :=
  { t with deadline := some (env.now.saturatingAdd timeout) }

def restartWithMessage (env : Env) (_ : Timeout) (msg : SystemMessage) (timeout : Duration) :
    Timeout :=
  ⟨msg, some (env.now.saturatingAdd timeout)⟩

end Timeout

structure AnnounceReceiptTimeout where
  timeout : Timeout
  interval : Duration
deriving DecidableEq

namespace AnnounceReceiptTimeout

def restart (env : Env) (t : AnnounceReceiptTimeout) : AnnounceReceiptTimeout :=
  { t with timeout := t.timeout.restart env t.interval }

end AnnounceReceiptTimeout

/-- The boundary of a port in one domain. -/
structure DomainPort where
  portIdentity : PortIdentity
  domainNumber : DomainNumber
deriving DecidableEq

namespace DomainPort

variable {F : Type}

/-- A new handle is not armed. -/
def timeout (_ : DomainPort) (msg : SystemMessage) : Timeout := ⟨msg, none⟩

def sendEvent (env : Env) (port : DomainPort) (msg : EventMessage) :
    Act (Effect F) SendResult := do
  let buf := MessageBuffer.new port.domainNumber port.portIdentity
  Act.emit (.sendEvent msg (msg.toWire buf) env.sendResult)
  match env.sendResult with
  | .ok () => do
    Act.emit (.stampEgress msg)
    pure env.sendResult
  | .error _ => pure env.sendResult

def sendGeneral (env : Env) (port : DomainPort) (msg : GeneralMessage) :
    Act (Effect F) SendResult := do
  let buf := MessageBuffer.new port.domainNumber port.portIdentity
  Act.emit (.sendGeneral msg (msg.toWire buf) env.sendResult)
  pure env.sendResult

end DomainPort

end Rptp
