import Rptp.Message.Acceptance

/-! # The wire round trip

Every builder writes the same header and then a payload behind it. `Framed` records what the
header holds; payload writes keep it, and a cut datagram reads it back.
-/

namespace Rptp

open Machine

theorem TimeStamp.wireTimestamp_toWire (t : TimeStamp) : wireTimestamp t.toWire = pure t := by
  have hs := t.seconds_lt
  have hn : t.nanos < 1000000000 := t.nanos_lt
  have hmsb : (t.toWire.range 0 2 (by decide)).toList = toBe 2 (t.seconds / 2 ^ 32 % 2 ^ 16) :=
    Octets.range_toList [] _ (toBe 4 (t.seconds % 2 ^ 32) ++ toBe 4 t.nanos)
      (by simp [toWire]) (by simp) (by simp) _
  have hlsb : (t.toWire.range 2 4 (by decide)).toList = toBe 4 (t.seconds % 2 ^ 32) :=
    Octets.range_toList (toBe 2 (t.seconds / 2 ^ 32 % 2 ^ 16)) _ (toBe 4 t.nanos)
      (by simp [toWire]) (by simp) (by simp) _
  have hnanos : (t.toWire.range 6 4 (by decide)).toList = toBe 4 t.nanos :=
    Octets.range_toList (toBe 2 (t.seconds / 2 ^ 32 % 2 ^ 16) ++ toBe 4 (t.seconds % 2 ^ 32)) _ []
      (by simp [toWire]) (by simp) (by simp) _
  have hsec : t.seconds / 2 ^ 32 % 2 ^ 16 * 2 ^ 32 + t.seconds % 2 ^ 32 = t.seconds := by omega
  have hnew : TimeStamp.new t.seconds t.nanos = .ok t := new_eq t.seconds_lt t.nanos_lt
  simp only [wireTimestamp, hmsb, hlsb, hnanos]
  rw [ofBe_toBe 2 _ (by omega), ofBe_toBe 4 _ (by omega), ofBe_toBe 4 _ (by omega), hsec,
    if_pos hn, hnew]
  rfl

/-- What the header of a buffer holds. -/
structure Framed (b : MessageBuffer) (domain : DomainNumber) (source : PortIdentity)
    (msgType : MessageType) (flags : MessageFlags) (sequenceId : SequenceId)
    (logInterval : LogMessageInterval) : Prop where
  msgType : b.Holds 0 (Octets.single msgType.toNibble)
  version : b.Holds 1 (Octets.single 2)
  domain : b.Holds 4 (Octets.single domain.value)
  flags : b.Holds 6 (toBeOctets 2 flags.bits.toNat)
  source : b.Holds 20 source.toWire
  sequenceId : b.Holds 30 (toBeOctets 2 sequenceId.id.toNat)
  logInterval : b.Holds 33 (Octets.single logInterval.asU8)

section Frame

variable {b : MessageBuffer} {domain : DomainNumber} {source : PortIdentity}
  {msgType : MessageType} {flags : MessageFlags} {sequenceId : SequenceId}
  {logInterval : LogMessageInterval}

/-- The new buffer has transport specific 0, so its first octet is the message type. -/
theorem firstOctet (domain : DomainNumber) (source : PortIdentity) (msgType : MessageType) :
    (MessageBuffer.new domain source 0 &&& 0xF0) ||| msgType.toNibble = msgType.toNibble := by
  have h : MessageBuffer.new domain source 0 = 0 := rfl
  rw [h]
  cases msgType <;> rfl

theorem framed_header (domain : DomainNumber) (source : PortIdentity) (msgType : MessageType)
    (control : ControlField) (flags : MessageFlags) (sequenceId : SequenceId)
    (logInterval : LogMessageInterval) :
    Framed (((((MessageBuffer.new domain source).withMessageType msgType control).withFlags
      flags).withSequenceId sequenceId).withLogMessageInterval logInterval)
      domain source msgType flags sequenceId logInterval where
  msgType := by
    have h := Buffer.holds_write (MessageBuffer.new domain source) 0
      (Octets.single ((MessageBuffer.new domain source 0 &&& 0xF0) ||| msgType.toNibble))
      (by decide)
    rw [firstOctet] at h
    rw [MessageBuffer.withMessageType, firstOctet]
    exact (((h.write 32 _ (by decide) (by decide)).write 6 _ (by decide) (by decide)).write 30 _
      (by decide) (by decide)).write 33 _ (by decide) (by decide)
  version := by
    have h : (MessageBuffer.new domain source).Holds 1 (Octets.single 2) :=
      ((Buffer.holds_write _ 1 _ (by decide)).write 4 _ (by decide) (by decide)).write 20 _
        (by decide) (by decide)
    exact ((((h.write 0 _ (by decide) (by decide)).write 32 _ (by decide) (by decide)).write 6 _
      (by decide) (by decide)).write 30 _ (by decide) (by decide)).write 33 _ (by decide)
      (by decide)
  domain := by
    have h : (MessageBuffer.new domain source).Holds 4 (Octets.single domain.value) :=
      (Buffer.holds_write _ 4 _ (by decide)).write 20 _ (by decide) (by decide)
    exact ((((h.write 0 _ (by decide) (by decide)).write 32 _ (by decide) (by decide)).write 6 _
      (by decide) (by decide)).write 30 _ (by decide) (by decide)).write 33 _ (by decide)
      (by decide)
  source := by
    have h : (MessageBuffer.new domain source).Holds 20 source.toWire :=
      Buffer.holds_write _ 20 _ (by decide)
    exact ((((h.write 0 _ (by decide) (by decide)).write 32 _ (by decide) (by decide)).write 6 _
      (by decide) (by decide)).write 30 _ (by decide) (by decide)).write 33 _ (by decide)
      (by decide)
  flags := ((Buffer.holds_write _ 6 _ (by decide)).write 30 _ (by decide) (by decide)).write 33 _
    (by decide) (by decide)
  sequenceId := (Buffer.holds_write _ 30 _ (by decide)).write 33 _ (by decide) (by decide)
  logInterval := Buffer.holds_write _ 33 _ (by decide)

theorem Framed.write (h : Framed b domain source msgType flags sequenceId logInterval) {m : ℕ}
    (offset : ℕ) (bytes : Octets m) (range : offset + m ≤ 2048)
    (disjoint : 34 ≤ offset ∨ (2 ≤ offset ∧ offset + m ≤ 4)) :
    Framed (b.write offset bytes range) domain source msgType flags sequenceId logInterval where
  msgType := h.msgType.write _ _ _ (by omega)
  version := h.version.write _ _ _ (by omega)
  domain := h.domain.write _ _ _ (by omega)
  flags := h.flags.write _ _ _ (by omega)
  source := h.source.write _ _ _ (by omega)
  sequenceId := h.sequenceId.write _ _ _ (by omega)
  logInterval := h.logInterval.write _ _ _ (by omega)

theorem Framed.writePayload (h : Framed b domain source msgType flags sequenceId logInterval)
    {m : ℕ} (offset : ℕ) (bytes : Octets m) (range : 34 + offset + m ≤ 2048) :
    Framed (b.writePayload offset bytes range) domain source msgType flags sequenceId
      logInterval :=
  h.write _ bytes range (.inl (by omega))

theorem octet_take {x : UInt8} {i k : ℕ} (h : b.Holds i (Octets.single x))
    (range : k ≤ 2048) (hi : i < k) : octet (b.take k range) i = x := by
  rw [octet, List.getD_eq_getElem?_getD, Buffer.take_getElem _ _ _ _ hi]
  exact h 0 (by simp; omega)

theorem field_take {m offset k : ℕ} {bytes : Octets m} (h : b.Holds offset bytes)
    (range : k ≤ 2048) (hk : offset + m ≤ k) :
    field (b.take k range) offset m = bytes.toList := h.take_drop range hk

theorem nibble_mask (msgType : MessageType) : msgType.toNibble &&& 0x0F = msgType.toNibble := by
  cases msgType <;> rfl

/-- What a finished datagram reads back. -/
structure ReadsBack (d : List UInt8) (domain : DomainNumber) (source : PortIdentity)
    (msgType : MessageType) (flags : MessageFlags) (sequenceId : SequenceId)
    (logInterval : LogMessageInterval) : Prop where
  framed : WellFramed d
  domain : headerDomain d = domain
  source : headerSource d framed.header = source
  msgType : typeNibble d = msgType.toNibble
  flags : headerFlags d = MessageFlags.fromBitsTruncate flags.bits
  sequenceId : headerSequenceId d = sequenceId
  logInterval : headerLogInterval d = logInterval

theorem Framed.finalize (h : Framed b domain source msgType flags sequenceId logInterval)
    (payloadLen : ℕ) (range : 34 + payloadLen ≤ 2048) :
    ReadsBack (b.finalize payloadLen range) domain source msgType flags sequenceId
      logInterval := by
  have hf := h.write 2 (toBeOctets 2 (34 + payloadLen)) (by decide) (.inr (by decide))
  have hlen : (b.finalize payloadLen range).length = 34 + payloadLen := Buffer.take_length _ _ _
  have hwf : WellFramed (b.finalize payloadLen range) := by
    refine ⟨by omega, ?_, ?_⟩
    · rw [MessageBuffer.finalize, octet_take hf.version _ (by omega)]
      rfl
    · rw [hlen, MessageBuffer.finalize, field_take (Buffer.holds_write _ 2 _ _) _ (by omega)]
      exact ofBe_toBe 2 _ (by omega)
  refine ⟨hwf, ?_, ?_, ?_, ?_, ?_, ?_⟩
  · rw [headerDomain, MessageBuffer.finalize, octet_take hf.domain _ (by omega)]
  · have hsrc : field (b.finalize payloadLen range) 20 10 = source.toWire.toList :=
      field_take hf.source _ (by omega)
    have hoct : Octets.ofList (field (b.finalize payloadLen range) 20 10)
        (field_length (by omega)) = source.toWire := List.Vector.eq _ _ hsrc
    rw [headerSource, hoct, PortIdentity.fromWire_toWire]
  · rw [typeNibble, MessageBuffer.finalize, octet_take hf.msgType _ (by omega), nibble_mask]
  · rw [headerFlags, MessageBuffer.finalize, field_take hf.flags _ (by omega)]
    exact congrArg _ (ofBe_uint16 _)
  · rw [headerSequenceId, MessageBuffer.finalize, field_take hf.sequenceId _ (by omega)]
    exact congrArg _ (ofBe_uint16 _)
  · rw [headerLogInterval, MessageBuffer.finalize, octet_take hf.logInterval _ (by omega)]
    cases logInterval
    simp [LogMessageInterval.asU8]

theorem payload_field {m payloadLen : ℕ} {bytes : Octets m} (offset : ℕ)
    (h : b.Holds (34 + offset) bytes) (range : 34 + payloadLen ≤ 2048)
    (hm : offset + m ≤ payloadLen) :
    field (datagramPayload (b.finalize payloadLen range)) offset m = bytes.toList := by
  have hb := h.write 2 (toBeOctets 2 (34 + payloadLen)) (by decide) (.inr (by omega))
  have hf := field_take hb range (by omega)
  rw [field, datagramPayload, List.drop_drop]
  exact hf

theorem payload_length (payloadLen : ℕ) (range : 34 + payloadLen ≤ 2048) :
    (datagramPayload (b.finalize payloadLen range)).length = payloadLen := by
  rw [datagramPayload, List.length_drop, MessageBuffer.finalize, Buffer.take_length]
  omega

end Frame

theorem fromNibble_toNibble (msgType : MessageType) :
    MessageType.fromNibble msgType.toNibble = pure msgType := by
  cases msgType <;> rfl

theorem ReadsBack.decodeBody_eq {M : Type} {d : List UInt8} {domain : DomainNumber}
    {source : PortIdentity} {msgType : MessageType} {flags : MessageFlags}
    {sequenceId : SequenceId} {logInterval : LogMessageInterval}
    (h : ReadsBack d domain source msgType flags sequenceId logInterval)
    (new : DomainMessage.Decoder M) :
    decodeBody new d = new msgType sequenceId (MessageFlags.fromBitsTruncate flags.bits)
      logInterval (datagramPayload d) := by
  rw [decodeBody, h.msgType, fromNibble_toNibble, pure_bind, h.sequenceId, h.flags,
    h.logInterval]

theorem payloadField_eq {payload : List UInt8} {start stop : ℕ} {bytes : Octets (stop - start)}
    (name : String) (hs : start ≤ stop) (hlen : stop ≤ payload.length)
    (h : field payload start (stop - start) = bytes.toList) :
    payloadField payload name start stop = pure bytes := by
  rw [payloadField_accepts name hs hlen]
  exact congrArg pure (List.Vector.eq _ _ h)

theorem timestampField_eq {payload : List UInt8} {t : TimeStamp} (name : String)
    (hlen : 10 ≤ payload.length) (h : field payload 0 10 = t.toWire.toList) :
    timestampField payload name = pure t := by
  have hf : payloadField payload name 0 10 = pure t.toWire :=
    payloadField_eq name (by omega) hlen h
  rw [timestampField, hf]
  exact t.wireTimestamp_toWire

/-- A datagram that is well framed and carries `msg` from `source` in `domain`. -/
structure Carries {M : Type} (new : DomainMessage.Decoder M) (d : List UInt8)
    (domain : DomainNumber) (source : PortIdentity) (msg : M) : Prop where
  framed : WellFramed d
  domain : headerDomain d = domain
  source : headerSource d framed.header = source
  body : decodeBody new d = pure msg

theorem ReadsBack.carries {M : Type} {new : DomainMessage.Decoder M} {d : List UInt8}
    {domain : DomainNumber} {source : PortIdentity} {msgType : MessageType}
    {flags : MessageFlags} {sequenceId : SequenceId} {logInterval : LogMessageInterval} {msg : M}
    (h : ReadsBack d domain source msgType flags sequenceId logInterval)
    (hmsg : new msgType sequenceId (MessageFlags.fromBitsTruncate flags.bits) logInterval
      (datagramPayload d) = pure msg) : Carries new d domain source msg :=
  ⟨h.framed, h.domain, h.source, (h.decodeBody_eq new).trans hmsg⟩

/-- An Announce message is in canonical form when its data set is. -/
def GeneralMessage.Canonical : GeneralMessage → Prop
  | .announce msg => msg.foreignClockDs.Canonical
  | .delayResp _ => True
  | .followUp _ => True

section Payload

variable {b : MessageBuffer} {domain : DomainNumber} {source : PortIdentity}

theorem timestampField_finalize {t : TimeStamp} (h : b.Holds 34 t.toWire) (name : String)
    (payloadLen : ℕ) (range : 34 + payloadLen ≤ 2048) (hlen : 10 ≤ payloadLen) :
    timestampField (datagramPayload (b.finalize payloadLen range)) name = pure t :=
  timestampField_eq name (by rw [payload_length]; exact hlen)
    (payload_field 0 h range (by omega))

theorem oneStepSync_carries {msg : OneStepSyncMessage}
    (hf : Framed b domain source .sync .empty msg.sequenceId msg.logMessageInterval) :
    Carries EventMessage.new ((b.writePayload 0 msg.originTimestamp.toWire (by decide)).finalize 10
      (by decide)) domain source (.oneStepSync msg) := by
  refine ((hf.writePayload 0 _ (by decide)).finalize 10 (by decide)).carries ?_
  have hts := timestampField_finalize
    (Buffer.holds_write b 34 msg.originTimestamp.toWire (by decide)) "Sync.origin_timestamp"
    10 (by decide) le_rfl
  change (timestampField _ _ >>= fun t => pure _) = _
  rw [MessageBuffer.writePayload, hts]
  rfl

theorem followUp_carries {msg : FollowUpMessage}
    (hf : Framed b domain source .followUp .empty msg.sequenceId msg.logMessageInterval) :
    Carries GeneralMessage.new ((b.writePayload 0 msg.preciseOriginTimestamp.toWire
      (by decide)).finalize 10 (by decide)) domain source (.followUp msg) := by
  refine ((hf.writePayload 0 _ (by decide)).finalize 10 (by decide)).carries ?_
  have hts := timestampField_finalize
    (Buffer.holds_write b 34 msg.preciseOriginTimestamp.toWire (by decide))
    "FollowUp.precise_origin_timestamp" 10 (by decide) le_rfl
  change (timestampField _ _ >>= fun t => pure _) = _
  rw [MessageBuffer.writePayload, hts]
  rfl

theorem delayResp_carries {msg : DelayResponseMessage}
    (hf : Framed b domain source .delayResponse .empty msg.sequenceId msg.logMessageInterval) :
    Carries GeneralMessage.new (((b.writePayload 0 msg.receiveTimestamp.toWire
      (by decide)).writePayload 10 msg.requestingPortIdentity.toWire (by decide)).finalize 20
      (by decide)) domain source (.delayResp msg) := by
  refine (((hf.writePayload 0 _ (by decide)).writePayload 10 _ (by decide)).finalize 20
    (by decide)).carries ?_
  have hwrite := Buffer.holds_write b 34 msg.receiveTimestamp.toWire (by decide)
  have hts := timestampField_finalize (hwrite.write 44 msg.requestingPortIdentity.toWire
    (by decide) (by decide)) "DelayResponse.receive_timestamp" 20 (by decide) (by decide)
  have hid : payloadField (datagramPayload (MessageBuffer.finalize
      ((b.write 34 msg.receiveTimestamp.toWire (by decide)).write 44
        msg.requestingPortIdentity.toWire (by decide)) 20 (by decide)))
      "DelayResponse.requesting_port_identity" 10 20 = pure msg.requestingPortIdentity.toWire :=
    payloadField_eq _ (by decide) (payload_length 20 (by decide)).ge
      (payload_field 10 (Buffer.holds_write _ 44 _ (by decide)) (by decide) (by decide))
  simp only [GeneralMessage.new, delayResponseReceiveTimestamp,
    delayResponseRequestingPortIdentity, MessageBuffer.writePayload]
  rw [hts, pure_bind, hid, pure_bind, PortIdentity.fromWire_toWire]
  rfl

theorem announce_carries {msg : AnnounceMessage} {flags : MessageFlags}
    (hflags : (if (MessageFlags.fromBitsTruncate flags.bits).contains .ptpTimescale then
      TimeScale.ptp else .arb) = msg.ptpTimescale)
    (hf : Framed b domain source .announce flags msg.sequenceId msg.logMessageInterval)
    (h : msg.foreignClockDs.Canonical) :
    Carries GeneralMessage.new ((b.writePayload 13 msg.foreignClockDs.toWire (by decide)).finalize
      30 (by decide)) domain source (.announce msg) := by
  refine ((hf.writePayload 13 _ (by decide)).finalize 30 (by decide)).carries ?_
  have hds : payloadField (datagramPayload (MessageBuffer.finalize
      (b.write 47 msg.foreignClockDs.toWire (by decide)) 30 (by decide)))
      "Announce.foreign_clock_ds" 13 29 = pure msg.foreignClockDs.toWire :=
    payloadField_eq _ (by decide) (by rw [payload_length]; decide)
      (payload_field 13 (Buffer.holds_write _ 47 _ (by decide)) (by decide) (by decide))
  simp only [GeneralMessage.new, announceForeignClockDs, MessageBuffer.writePayload]
  rw [hds, pure_bind, ClockDS.fromWire_toWire _ h, pure_bind, hflags]

end Payload

section Datagrams

variable (domain : DomainNumber) (source : PortIdentity)

theorem eventMessage_carries (msg : EventMessage) :
    Carries EventMessage.new (msg.toWire (MessageBuffer.new domain source)) domain source msg := by
  cases msg with
  | delayReq msg =>
    exact ((framed_header domain source .delayRequest .delayRequest .empty msg.sequenceId
      .unspecified).finalize 10 (by decide)).carries rfl
  | oneStepSync msg =>
    exact oneStepSync_carries (framed_header domain source .sync .sync .empty msg.sequenceId
      msg.logMessageInterval)
  | twoStepSync msg =>
    exact ((framed_header domain source .sync .sync .twoStep msg.sequenceId
      msg.logMessageInterval).finalize 10 (by decide)).carries rfl

theorem generalMessage_carries (msg : GeneralMessage) (h : msg.Canonical) :
    Carries GeneralMessage.new (msg.toWire (MessageBuffer.new domain source)) domain source
      msg := by
  cases msg with
  | announce msg =>
    obtain ⟨sequenceId, logInterval, ds, timescale⟩ := msg
    cases timescale with
    | ptp =>
      exact announce_carries rfl (framed_header domain source .announce .other .ptpTimescale
        sequenceId logInterval) h
    | arb =>
      exact announce_carries rfl (framed_header domain source .announce .other .empty
        sequenceId logInterval) h
  | delayResp msg =>
    exact delayResp_carries (framed_header domain source .delayResponse .delayResponse .empty
      msg.sequenceId msg.logMessageInterval)
  | followUp msg =>
    exact followUp_carries (framed_header domain source .followUp .followUp .empty msg.sequenceId
      msg.logMessageInterval)

end Datagrams

section Delivery

variable {ε P PM : Type} [PortMap PM P]

theorem Carries.dispatch_eq {M : Type} {new : DomainMessage.Decoder M} {d : List UInt8}
    {domain : DomainNumber} {source : PortIdentity} {msg : M}
    (h : Carries new d domain source msg) (process : P → PortIdentity → M → Act ε P) {ports : PM}
    {port : P} (hport : PortMap.portByDomain ports domain = .ok port) :
    DomainMessage.dispatch new process ports d = (do
      let port' ← process port source msg
      pure (.ok (), PortMap.setPort ports domain port')) := by
  have hp : PortMap.portByDomain ports (headerDomain d) = .ok port := by rw [h.domain, hport]
  rw [dispatch_of_decoded h.framed hp h.body, h.domain, h.source]

/-- Every message that the program can build passes the length check, declares its length and is
delivered unchanged, with its sender, to the port of its domain. -/
theorem wire_roundTrip (ingress : PortIngress ε P) (ports : PM) (domain : DomainNumber)
    (source : PortIdentity) (port : P) (hport : PortMap.portByDomain ports domain = .ok port)
    (timestamp : TimeStamp) (now : Instant) :
    (∀ msg : EventMessage,
      lengthCheckedV2 (msg.toWire (MessageBuffer.new domain source)) =
          pure (msg.toWire (MessageBuffer.new domain source)) ∧
        ofBe (field (msg.toWire (MessageBuffer.new domain source)) 2 2) =
          (msg.toWire (MessageBuffer.new domain source)).length ∧
        MessageIngress.receiveEvent ingress ports (msg.toWire (MessageBuffer.new domain source))
            timestamp = (do
          let port' ← ingress.processEventMessage port source msg timestamp
          pure (.ok (), PortMap.setPort ports domain port'))) ∧
    (∀ msg : GeneralMessage, msg.Canonical →
      lengthCheckedV2 (msg.toWire (MessageBuffer.new domain source)) =
          pure (msg.toWire (MessageBuffer.new domain source)) ∧
        ofBe (field (msg.toWire (MessageBuffer.new domain source)) 2 2) =
          (msg.toWire (MessageBuffer.new domain source)).length ∧
        MessageIngress.receiveGeneral ingress ports (msg.toWire (MessageBuffer.new domain source))
            now = (do
          let port' ← ingress.processGeneralMessage port source msg now
          pure (.ok (), PortMap.setPort ports domain port'))) := by
  constructor
  · intro msg
    have hc := eventMessage_carries domain source msg
    exact ⟨lengthCheckedV2_accepts hc.framed, hc.framed.declared, hc.dispatch_eq _ hport⟩
  · intro msg hcanonical
    have hc := generalMessage_carries domain source msg hcanonical
    exact ⟨lengthCheckedV2_accepts hc.framed, hc.framed.declared, hc.dispatch_eq _ hport⟩

end Delivery

/-- An ingress that keeps the messages it is called with. -/
def recordingIngress : PortIngress Unit (List (PortIdentity × (EventMessage ⊕ GeneralMessage))) where
  processEventMessage calls source msg _ := pure (calls ++ [(source, .inl msg)])
  processGeneralMessage calls source msg _ := pure (calls ++ [(source, .inr msg)])

/-- A DelayReq and an Announce through the ingress of a single domain. -/
theorem wire_roundTrip_recorded :
    let source : PortIdentity := ⟨⟨Octets.ofList [1, 2, 3, 4, 5, 6, 7, 8] rfl⟩, ⟨1⟩⟩
    let ports : SingleDomainPortMap (List (PortIdentity × (EventMessage ⊕ GeneralMessage))) :=
      ⟨⟨3⟩, []⟩
    let request : EventMessage := .delayReq ⟨⟨7⟩⟩
    let announce : GeneralMessage := .announce ⟨⟨9⟩, ⟨-1⟩,
      ⟨source.clockIdentity, ⟨128⟩, ⟨127⟩, ⟨.default, .unknown, 0xFFFF⟩, ⟨0⟩⟩, .ptp⟩
    MessageIngress.receiveEvent recordingIngress ports
        (request.toWire (MessageBuffer.new ⟨3⟩ source)) ⟨1, 2, by decide, by decide⟩ =
      pure (.ok (), ⟨⟨3⟩, [(source, .inl request)]⟩) ∧
    MessageIngress.receiveGeneral recordingIngress ports
        (announce.toWire (MessageBuffer.new ⟨3⟩ source)) ⟨0, by decide⟩ =
      pure (.ok (), ⟨⟨3⟩, [(source, .inr announce)]⟩) := by
  intro source ports request announce
  have h := wire_roundTrip recordingIngress ports ⟨3⟩ source [] rfl ⟨1, 2, by decide, by decide⟩
    ⟨0, by decide⟩
  exact ⟨(h.1 request).2.2, (h.2 announce ⟨rfl, rfl⟩).2.2⟩

end Rptp
