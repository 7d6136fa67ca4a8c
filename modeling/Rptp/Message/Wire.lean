import Rptp.Message.Types

/-! # The wire format

Reading views over a received datagram and the builder of a datagram to send. A read outside the
datagram panics, as in the source; a malformed datagram is an `Error`.
-/

namespace Rptp

open Machine

inductive ParseError where
  | headerTooShort (found : ℕ)
  | lengthMismatch (declared actual : ℕ)
  | payloadTooShort (field : String) (expected found : ℕ)
deriving DecidableEq

inductive ProtocolError where
  | unsupportedPtpVersion (version : UInt8)
  | domainNotFound (domain : UInt8)
  | invalidTimestamp (nanos : ℕ)
  | unknownMessageType (nibble : UInt8)
deriving DecidableEq

inductive Error where
  | parse (e : ParseError)
  | protocol (e : ProtocolError)
deriving DecidableEq

/-- A computation that may reject its input and may panic. -/
abbrev Parsed (α : Type) := ExceptT Error Checked α

namespace Parsed

def reject {α : Type} (e : Error) : Parsed α := ExceptT.mk (.ok (.error e))

/-- The value of an option, or a rejection. -/
def okOr {α : Type} (e : Error) : Option α → Parsed α
  | some a => pure a
  | none => reject e

end Parsed

inductive MessageType where
  | sync
  | delayRequest
  | followUp
  | delayResponse
  | announce
deriving DecidableEq

namespace MessageType

def toNibble : MessageType → UInt8
  | sync => 0x00
  | delayRequest => 0x01
  | followUp => 0x08
  | delayResponse => 0x09
  | announce => 0x0B

def fromNibble (n : UInt8) : Parsed MessageType :=
  if n = 0x00 then pure sync
  else if n = 0x01 then pure delayRequest
  else if n = 0x08 then pure followUp
  else if n = 0x09 then pure delayResponse
  else if n = 0x0B then pure announce
  else Parsed.reject (.protocol (.unknownMessageType n))

end MessageType

inductive ControlField where
  | sync
  | delayRequest
  | followUp
  | delayResponse
  | management
  | other
deriving DecidableEq

namespace ControlField

def toU8 : ControlField → UInt8
  | sync => 0x00
  | delayRequest => 0x01
  | followUp => 0x02
  | delayResponse => 0x03
  | management => 0x04
  | other => 0x05

end ControlField

structure MessageFlags where
  bits : UInt16
deriving DecidableEq

namespace MessageFlags

def empty : MessageFlags := ⟨0⟩
def twoStep : MessageFlags := ⟨0x0200⟩
def ptpTimescale : MessageFlags := ⟨0x0008⟩

/-- Bits that name no flag are dropped. -/
def fromBitsTruncate (bits : UInt16) : MessageFlags := ⟨bits &&& 0x0208⟩

def contains (flags other : MessageFlags) : Bool := flags.bits &&& other.bits == other.bits

end MessageFlags

/-- The fixed part of a datagram. -/
def ptpHeaderLen : ℕ := 34

/-- Minimum length, version 2 and the declared length. -/
def lengthCheckedV2 (buf : List UInt8) : Parsed (List UInt8) := do
  if buf.length < ptpHeaderLen then
    Parsed.reject (.parse (.headerTooShort buf.length))
  else do
    let v := (← index buf 1) &&& 0x0F
    if v ≠ 2 then Parsed.reject (.protocol (.unsupportedPtpVersion v))
    else do
      let lengthField ← slice buf 2 4
      let declared ← Parsed.okOr (.parse (.payloadTooShort "PTP length header" 2 lengthField.length))
        (tryIntoOctets 2 lengthField)
      let expected := ofBe declared.toList
      if expected ≠ buf.length then Parsed.reject (.parse (.lengthMismatch expected buf.length))
      else pure buf

/-- The header of a length-checked datagram. -/
structure MessageHeader where
  buf : List UInt8

namespace MessageHeader

/-- `try_into().unwrap()` on a slice. -/
def unwrapOctets (n : ℕ) (l : List UInt8) : Checked (Octets n) :=
  match tryIntoOctets n l with
  | some o => pure o
  | none => .error (.message "called `Result::unwrap()` on an `Err` value: TryFromSliceError(())")

def messageType (h : MessageHeader) : Parsed MessageType := do
  MessageType.fromNibble ((← index h.buf 0) &&& 0x0F)

def domainNumber (h : MessageHeader) : Checked DomainNumber := do
  pure ⟨← index h.buf 4⟩

def sequenceId (h : MessageHeader) : Checked SequenceId := do
  pure ⟨UInt16.ofNat (ofBe (← unwrapOctets 2 (← slice h.buf 30 32)).toList)⟩

def flags (h : MessageHeader) : Checked MessageFlags := do
  pure (MessageFlags.fromBitsTruncate
    (UInt16.ofNat (ofBe (← unwrapOctets 2 (← slice h.buf 6 8)).toList)))

def sourcePortIdentity (h : MessageHeader) : Checked PortIdentity := do
  pure (PortIdentity.fromWire (← unwrapOctets 10 (← slice h.buf 20 30)))

def logMessageInterval (h : MessageHeader) : Checked LogMessageInterval := do
  pure ⟨(← index h.buf 33).toInt8⟩

def payload (h : MessageHeader) : Checked (List UInt8) := slice h.buf 34 h.buf.length

end MessageHeader

/-- The ten octets of a timestamp, rejected when the nanoseconds are out of range. -/
def wireTimestamp (buf : Octets 10) : Parsed TimeStamp := do
  let secsMsb := ofBe (buf.range 0 2 (by decide)).toList
  let secsLsb := ofBe (buf.range 2 4 (by decide)).toList
  let seconds := secsMsb * 2 ^ 32 + secsLsb
  let nanos := ofBe (buf.range 6 4 (by decide)).toList
  if nanos < 1000000000 then TimeStamp.new seconds nanos
  else Parsed.reject (.protocol (.invalidTimestamp nanos))

/-- The octets from `start` up to `stop` of a payload, for the field named `field`. -/
def payloadField (payload : List UInt8) (field : String) (start stop : ℕ) :
    Parsed (Octets (stop - start)) := do
  let bytes ← Parsed.okOr
    (.parse (.payloadTooShort field (stop - start) (payload.length - start)))
    (getRange payload start stop)
  Parsed.okOr (.parse (.payloadTooShort field (stop - start) bytes.length))
    (tryIntoOctets (stop - start) bytes)

/-- The first ten octets of a payload, read as a timestamp. -/
def timestampField (payload : List UInt8) (field : String) : Parsed TimeStamp := do
  wireTimestamp (← payloadField payload field 0 10)

def announceForeignClockDs (payload : List UInt8) : Parsed ClockDS := do
  pure (ClockDS.fromWire (← payloadField payload "Announce.foreign_clock_ds" 13 29))

def syncOriginTimestamp (payload : List UInt8) : Parsed TimeStamp :=
  timestampField payload "Sync.origin_timestamp"

def followUpPreciseOriginTimestamp (payload : List UInt8) : Parsed TimeStamp :=
  timestampField payload "FollowUp.precise_origin_timestamp"

def delayResponseReceiveTimestamp (payload : List UInt8) : Parsed TimeStamp :=
  timestampField payload "DelayResponse.receive_timestamp"

def delayResponseRequestingPortIdentity (payload : List UInt8) : Parsed PortIdentity := do
  pure (PortIdentity.fromWire
    (← payloadField payload "DelayResponse.requesting_port_identity" 10 20))

/-- Decode an event message. -/
def EventMessage.new (msgType : MessageType) (sequenceId : SequenceId) (flags : MessageFlags)
    (logMessageInterval : LogMessageInterval) (payload : List UInt8) : Parsed EventMessage := do
  match msgType with
  | .sync =>
    if flags.contains MessageFlags.twoStep then
      pure (.twoStepSync ⟨sequenceId, logMessageInterval⟩)
    else pure (.oneStepSync ⟨sequenceId, logMessageInterval, ← syncOriginTimestamp payload⟩)
  | .delayRequest => pure (.delayReq ⟨sequenceId⟩)
  | _ => Parsed.reject (.protocol (.unknownMessageType msgType.toNibble))

/-- Decode a general message. -/
def GeneralMessage.new (msgType : MessageType) (sequenceId : SequenceId) (flags : MessageFlags)
    (logMessageInterval : LogMessageInterval) (payload : List UInt8) : Parsed GeneralMessage := do
  match msgType with
  | .announce =>
    let foreignClockDs ← announceForeignClockDs payload
    pure (.announce ⟨sequenceId, logMessageInterval, foreignClockDs,
      if flags.contains MessageFlags.ptpTimescale then .ptp else .arb⟩)
  | .followUp =>
    pure (.followUp
      ⟨sequenceId, logMessageInterval, ← followUpPreciseOriginTimestamp payload⟩)
  | .delayResponse =>
    pure (.delayResp ⟨sequenceId, logMessageInterval, ← delayResponseReceiveTimestamp payload,
      ← delayResponseRequestingPortIdentity payload⟩)
  | _ => Parsed.reject (.protocol (.unknownMessageType msgType.toNibble))

/-- The buffer in which a datagram is built. -/
abbrev MessageBuffer := Buffer 2048

namespace MessageBuffer

/-- Transport specific 0, version 2, the domain and the sender. -/
def new (domainNumber : DomainNumber) (sourcePortIdentity : PortIdentity) : MessageBuffer :=
  (((Buffer.zero.set 0 (((0 : UInt8) &&& 0x0F) <<< 4) (by decide)).set 1 (2 &&& 0x0F) (by decide)).set 4
    domainNumber.value (by decide)).write 20 sourcePortIdentity.toWire (by decide)

def withMessageType (buf : MessageBuffer) (msgType : MessageType) (control : ControlField) :
    MessageBuffer :=
  (buf.set 0 ((buf 0 &&& 0xF0) ||| msgType.toNibble) (by decide)).set 32 control.toU8 (by decide)

def withFlags (buf : MessageBuffer) (flags : MessageFlags) : MessageBuffer :=
  buf.write 6 (toBeOctets 2 flags.bits.toNat) (by decide)

def withSequenceId (buf : MessageBuffer) (sequenceId : SequenceId) : MessageBuffer :=
  buf.write 30 (toBeOctets 2 sequenceId.id.toNat) (by decide)

def withLogMessageInterval (buf : MessageBuffer) (logMessageInterval : LogMessageInterval) :
    MessageBuffer :=
  buf.set 33 logMessageInterval.asU8 (by decide)

/-- Write into the payload, which starts after the header. -/
def writePayload {m : ℕ} (buf : MessageBuffer) (offset : ℕ) (bytes : Octets m)
    (range : 34 + offset + m ≤ 2048) : MessageBuffer :=
  buf.write (34 + offset) bytes range

/-- Fill in the total length and cut the buffer there. -/
def finalize (buf : MessageBuffer) (payloadLen : ℕ) (range : 34 + payloadLen ≤ 2048) :
    List UInt8 :=
  (buf.write 2 (toBeOctets 2 (34 + payloadLen)) (by decide)).take
    (34 + payloadLen) range

end MessageBuffer

def AnnounceMessage.toWire (msg : AnnounceMessage) (buf : MessageBuffer) : List UInt8 :=
  let ptpTimescaleFlag := match msg.ptpTimescale with
    | .ptp => MessageFlags.ptpTimescale
    | .arb => MessageFlags.empty
  ((((buf.withMessageType .announce .other).withFlags ptpTimescaleFlag).withSequenceId
    msg.sequenceId).withLogMessageInterval msg.logMessageInterval).writePayload 13
    msg.foreignClockDs.toWire (by decide) |>.finalize 30 (by decide)

def OneStepSyncMessage.toWire (msg : OneStepSyncMessage) (buf : MessageBuffer) : List UInt8 :=
  ((((buf.withMessageType .sync .sync).withFlags .empty).withSequenceId
    msg.sequenceId).withLogMessageInterval msg.logMessageInterval).writePayload 0
    msg.originTimestamp.toWire (by decide) |>.finalize 10 (by decide)

def TwoStepSyncMessage.toWire (msg : TwoStepSyncMessage) (buf : MessageBuffer) : List UInt8 :=
  ((((buf.withMessageType .sync .sync).withFlags .twoStep).withSequenceId
    msg.sequenceId).withLogMessageInterval msg.logMessageInterval).finalize 10 (by decide)

def FollowUpMessage.toWire (msg : FollowUpMessage) (buf : MessageBuffer) : List UInt8 :=
  ((((buf.withMessageType .followUp .followUp).withFlags .empty).withSequenceId
    msg.sequenceId).withLogMessageInterval msg.logMessageInterval).writePayload 0
    msg.preciseOriginTimestamp.toWire (by decide) |>.finalize 10 (by decide)

def DelayRequestMessage.toWire (msg : DelayRequestMessage) (buf : MessageBuffer) : List UInt8 :=
  ((((buf.withMessageType .delayRequest .delayRequest).withFlags .empty).withSequenceId
    msg.sequenceId).withLogMessageInterval .unspecified).finalize 10 (by decide)

def DelayResponseMessage.toWire (msg : DelayResponseMessage) (buf : MessageBuffer) : List UInt8 :=
  (((((buf.withMessageType .delayResponse .delayResponse).withFlags .empty).withSequenceId
    msg.sequenceId).withLogMessageInterval msg.logMessageInterval).writePayload 0
    msg.receiveTimestamp.toWire (by decide)).writePayload 10
    msg.requestingPortIdentity.toWire (by decide) |>.finalize 20 (by decide)

def EventMessage.toWire : EventMessage → MessageBuffer → List UInt8
  | .delayReq msg, buf => msg.toWire buf
  | .oneStepSync msg, buf => msg.toWire buf
  | .twoStepSync msg, buf => msg.toWire buf

def GeneralMessage.toWire : GeneralMessage → MessageBuffer → List UInt8
  | .announce msg, buf => msg.toWire buf
  | .delayResp msg, buf => msg.toWire buf
  | .followUp msg, buf => msg.toWire buf

end Rptp
