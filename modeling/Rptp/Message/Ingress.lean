import Rptp.Message.Wire

/-! # Message ingress

A datagram is checked, its domain is mapped to a port, its body is decoded, and only then the
port is called. A port map hands out the port of a domain and takes its new state back.
-/

namespace Rptp

open Machine

/-- The ingress operations of a port. -/
structure PortIngress (ε P : Type) where
  processEventMessage : P → PortIdentity → EventMessage → TimeStamp → Act ε P
  processGeneralMessage : P → PortIdentity → GeneralMessage → Instant → Act ε P

class PortMap (PM : Type) (P : outParam Type) where
  portByDomain : PM → DomainNumber → Except Error P
  setPort : PM → DomainNumber → P → PM

/-- The port map of a single domain. -/
structure SingleDomainPortMap (P : Type) where
  domainNumber : DomainNumber
  portFsm : P

instance {P : Type} : PortMap (SingleDomainPortMap P) P where
  portByDomain map domain :=
    if map.domainNumber = domain then .ok map.portFsm
    else .error (.protocol (.domainNotFound domain.value))
  setPort map _ port := { map with portFsm := port }

namespace DomainMessage

variable {ε P PM M : Type} [PortMap PM P]

/-- The decoder of a message class. -/
abbrev Decoder (M : Type) :=
  MessageType → SequenceId → MessageFlags → LogMessageInterval → List UInt8 → Parsed M

/-- What happens before the port is called: the port, the sender and the message. -/
def decode (new : Decoder M) (ports : PM) (header : MessageHeader) :
    Parsed (DomainNumber × P × PortIdentity × M) := do
  let domainNumber ← header.domainNumber
  let port ← ExceptT.mk (.ok (PortMap.portByDomain ports domainNumber))
  let sourcePortIdentity ← header.sourcePortIdentity
  let msg ← new (← header.messageType) (← header.sequenceId) (← header.flags)
    (← header.logMessageInterval) (← header.payload)
  pure (domainNumber, port, sourcePortIdentity, msg)

/-- Decode and call the port. -/
def dispatch (new : Decoder M) (process : P → PortIdentity → M → Act ε P) (ports : PM)
    (buf : List UInt8) : Act ε (Except Error Unit × PM) := do
  let decoded ← Act.lift (ExceptT.run (do
    let checked ← lengthCheckedV2 buf
    decode new ports ⟨checked⟩))
  match decoded with
  | .error e => pure (.error e, ports)
  | .ok (domainNumber, port, sourcePortIdentity, msg) => do
    let port ← process port sourcePortIdentity msg
    pure (.ok (), PortMap.setPort ports domainNumber port)

end DomainMessage

namespace MessageIngress

variable {ε P PM : Type} [PortMap PM P]

def receiveEvent (ingress : PortIngress ε P) (ports : PM) (buf : List UInt8)
    (timestamp : TimeStamp) : Act ε (Except Error Unit × PM) :=
  DomainMessage.dispatch EventMessage.new
    (fun port source msg => ingress.processEventMessage port source msg timestamp) ports buf

def receiveGeneral (ingress : PortIngress ε P) (ports : PM) (buf : List UInt8) (now : Instant) :
    Act ε (Except Error Unit × PM) :=
  DomainMessage.dispatch GeneralMessage.new
    (fun port source msg => ingress.processGeneralMessage port source msg now) ports buf

end MessageIngress

end Rptp
