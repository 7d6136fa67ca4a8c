import Rptp.Message.RoundTrip
import Rptp.Time.Arithmetic

/-! # The normal form of a datagram

Many datagrams deliver the same message: the decoder skips the correction field, reserved octets,
flags it does not know and whatever follows the payload. What a datagram delivers is again a message
that the program can build, and the datagram that it builds is the normal form of all of them.
-/

namespace Rptp

open Machine

theorem Parsed.bind_eq_pure {α β : Type} {x : Parsed α} {f : α → Parsed β} {b : β} :
    x >>= f = pure b ↔ ∃ a, x = pure a ∧ f a = pure b := by
  constructor
  · intro h
    cases hx : x.run with
    | error panic =>
      have hbind : (x >>= f).run = .error panic := by
        rw [ExceptT.run_bind, hx]
        rfl
      rw [h] at hbind
      cases hbind
    | ok result =>
      cases result with
      | error e =>
        have hbind : (x >>= f).run = .ok (.error e) := by
          rw [ExceptT.run_bind, hx]
          rfl
        rw [h] at hbind
        cases hbind
      | ok a =>
        refine ⟨a, hx, ?_⟩
        have hbind : (x >>= f).run = (f a).run := by
          rw [ExceptT.run_bind, hx]
          rfl
        rw [h] at hbind
        exact hbind.symm
  · rintro ⟨a, rfl, h⟩
    rwa [pure_bind]

/-- What a datagram delivers. -/
structure DatagramDelivery (M : Type) where
  domain : DomainNumber
  source : PortIdentity
  msg : M
deriving DecidableEq

section Normal

variable {M : Type}

/-- The delivery of a datagram that passes the length check and decodes. -/
def deliveryOf (new : DomainMessage.Decoder M) (buf : List UInt8) : Option (DatagramDelivery M) :=
  if h : 34 ≤ buf.length then
    match (lengthCheckedV2 buf).run, (decodeBody new buf).run with
    | .ok (.ok _), .ok (.ok msg) => some ⟨headerDomain buf, headerSource buf h, msg⟩
    | _, _ => none
  else none

/-- A datagram that delivers nothing is left as it is. -/
def normalForm (new : DomainMessage.Decoder M) (toWire : M → MessageBuffer → List UInt8)
    (buf : List UInt8) : List UInt8 :=
  match deliveryOf new buf with
  | some d => toWire d.msg (.new d.domain d.source)
  | none => buf

variable {new : DomainMessage.Decoder M} {buf : List UInt8} {d : DatagramDelivery M}

theorem Carries.deliveryOf_eq {domain : DomainNumber} {source : PortIdentity} {msg : M}
    (h : Carries new buf domain source msg) : deliveryOf new buf = some ⟨domain, source, msg⟩ := by
  rw [deliveryOf, dif_pos h.framed.header, lengthCheckedV2_accepts h.framed, h.body, h.domain,
    h.source]
  rfl

theorem carries_of_deliveryOf (h : deliveryOf new buf = some d) :
    Carries new buf d.domain d.source d.msg := by
  unfold deliveryOf at h
  split_ifs at h with hlen
  by_cases hf : WellFramed buf
  · cases hbody : (decodeBody new buf).run with
    | error panic =>
      rw [lengthCheckedV2_accepts hf, hbody] at h
      cases h
    | ok result =>
      cases result with
      | error e =>
        rw [lengthCheckedV2_accepts hf, hbody] at h
        cases h
      | ok msg =>
        rw [lengthCheckedV2_accepts hf, hbody] at h
        cases h
        exact ⟨hf, rfl, rfl, hbody⟩
  · obtain ⟨e, he⟩ := lengthCheckedV2_rejects hf
    rw [he] at h
    cases h

/-- Datagrams that carry the same message to the same port do the same. -/
theorem Carries.dispatch_congr {ε P PM : Type} [PortMap PM P] {buf' : List UInt8}
    {domain : DomainNumber} {source : PortIdentity} {msg : M}
    (h : Carries new buf domain source msg) (h' : Carries new buf' domain source msg)
    (process : P → PortIdentity → M → Act ε P) (ports : PM) :
    DomainMessage.dispatch new process ports buf = DomainMessage.dispatch new process ports buf' := by
  have hdecode : ∀ {b : List UInt8} (hb : Carries new b domain source msg),
      (do
        let checked ← lengthCheckedV2 b
        DomainMessage.decode new ports ⟨checked⟩) = (do
        let port ← ExceptT.mk (.ok (PortMap.portByDomain ports domain))
        pure (domain, port, source, msg)) := by
    intro b hb
    rw [lengthCheckedV2_accepts hb.framed, pure_bind, decode_eq hb.framed.header, hb.domain, hb.body,
      hb.source]
    rfl
  unfold DomainMessage.dispatch
  rw [hdecode h, hdecode h']

/-- A message class whose decoded messages are built as datagrams that carry them. -/
structure Rebuilds (new : DomainMessage.Decoder M) (toWire : M → MessageBuffer → List UInt8) :
    Prop where
  carries : ∀ {buf : List UInt8} {domain : DomainNumber} {source : PortIdentity} {msg : M},
    Carries new buf domain source msg →
      Carries new (toWire msg (.new domain source)) domain source msg

variable {toWire : M → MessageBuffer → List UInt8}

theorem Rebuilds.deliveryOf_normalForm (h : Rebuilds new toWire) (buf : List UInt8) :
    deliveryOf new (normalForm new toWire buf) = deliveryOf new buf := by
  unfold normalForm
  cases hd : deliveryOf new buf with
  | none => exact hd
  | some d => exact (h.carries (carries_of_deliveryOf hd)).deliveryOf_eq

theorem Rebuilds.normalForm_idem (h : Rebuilds new toWire) (buf : List UInt8) :
    normalForm new toWire (normalForm new toWire buf) = normalForm new toWire buf := by
  cases hd : deliveryOf new buf with
  | none =>
    have hsame : normalForm new toWire buf = buf := by rw [normalForm, hd]
    rw [hsame, hsame]
  | some d =>
    have hnormal := h.deliveryOf_normalForm buf
    rw [hd] at hnormal
    rw [normalForm, hnormal, normalForm, hd]

/-- Datagrams with the same delivery have the same normal form, and no others have. -/
theorem Rebuilds.normalForm_eq_iff (h : Rebuilds new toWire) {buf' : List UInt8} {d' : DatagramDelivery M}
    (hd : deliveryOf new buf = some d) (hd' : deliveryOf new buf' = some d') :
    normalForm new toWire buf = normalForm new toWire buf' ↔ d = d' := by
  constructor
  · intro heq
    have hsame := congrArg (deliveryOf new) heq
    rw [h.deliveryOf_normalForm, h.deliveryOf_normalForm, hd, hd'] at hsame
    exact Option.some.inj hsame
  · rintro rfl
    rw [normalForm, hd, normalForm, hd']

theorem Rebuilds.dispatch_normalForm {ε P PM : Type} [PortMap PM P] (h : Rebuilds new toWire)
    (process : P → PortIdentity → M → Act ε P) (ports : PM) (buf : List UInt8) :
    DomainMessage.dispatch new process ports (normalForm new toWire buf) =
      DomainMessage.dispatch new process ports buf := by
  unfold normalForm
  cases hd : deliveryOf new buf with
  | none => rfl
  | some d =>
    have hcarries := carries_of_deliveryOf hd
    exact (h.carries hcarries).dispatch_congr hcarries process ports

end Normal

theorem eventMessage_rebuilds : Rebuilds EventMessage.new EventMessage.toWire :=
  ⟨fun _ => eventMessage_carries _ _ _⟩

/-- An Announce that was decoded has a data set in the form its constructors produce. -/
theorem canonical_of_decodeBody {buf : List UInt8} {msg : GeneralMessage}
    (h : decodeBody GeneralMessage.new buf = pure msg) : msg.Canonical := by
  obtain ⟨msgType, -, h⟩ := Parsed.bind_eq_pure.mp h
  cases msgType with
  | announce =>
    obtain ⟨ds, hds, hret⟩ := Parsed.bind_eq_pure.mp h
    obtain ⟨octets, -, hfrom⟩ := Parsed.bind_eq_pure.mp hds
    cases hret
    cases hfrom
    exact ClockQuality.fromWire_canonical _
  | followUp =>
    obtain ⟨timestamp, -, hret⟩ := Parsed.bind_eq_pure.mp h
    cases hret
    trivial
  | delayResponse =>
    obtain ⟨timestamp, -, h⟩ := Parsed.bind_eq_pure.mp h
    obtain ⟨identity, -, hret⟩ := Parsed.bind_eq_pure.mp h
    cases hret
    trivial
  | sync => cases h
  | delayRequest => cases h

theorem generalMessage_rebuilds : Rebuilds GeneralMessage.new GeneralMessage.toWire :=
  ⟨fun h => generalMessage_carries _ _ _ (canonical_of_decodeBody h.body)⟩

/-- A datagram does the same as its normal form, whatever the port map and the ports are: the same
calls and the same answer. The normal form is a datagram that the program builds itself, taking it
again changes nothing, and two datagrams that are delivered have the same one exactly if they deliver
the same message from the same sender to the same domain. -/
theorem ingress_normalForm {ε P PM : Type} [PortMap PM P] (ingress : PortIngress ε P) (ports : PM)
    (timestamp : TimeStamp) (now : Instant) :
    (∀ buf, MessageIngress.receiveEvent ingress ports
        (normalForm EventMessage.new EventMessage.toWire buf) timestamp =
      MessageIngress.receiveEvent ingress ports buf timestamp) ∧
    (∀ buf, MessageIngress.receiveGeneral ingress ports
        (normalForm GeneralMessage.new GeneralMessage.toWire buf) now =
      MessageIngress.receiveGeneral ingress ports buf now) ∧
    (∀ buf, normalForm EventMessage.new EventMessage.toWire
        (normalForm EventMessage.new EventMessage.toWire buf) =
      normalForm EventMessage.new EventMessage.toWire buf) ∧
    (∀ buf, normalForm GeneralMessage.new GeneralMessage.toWire
        (normalForm GeneralMessage.new GeneralMessage.toWire buf) =
      normalForm GeneralMessage.new GeneralMessage.toWire buf) ∧
    (∀ buf buf' d d', deliveryOf EventMessage.new buf = some d →
      deliveryOf EventMessage.new buf' = some d' →
      (normalForm EventMessage.new EventMessage.toWire buf =
        normalForm EventMessage.new EventMessage.toWire buf' ↔ d = d')) ∧
    ∀ buf buf' d d', deliveryOf GeneralMessage.new buf = some d →
      deliveryOf GeneralMessage.new buf' = some d' →
      (normalForm GeneralMessage.new GeneralMessage.toWire buf =
        normalForm GeneralMessage.new GeneralMessage.toWire buf' ↔ d = d') :=
  ⟨eventMessage_rebuilds.dispatch_normalForm _ ports,
    generalMessage_rebuilds.dispatch_normalForm _ ports, eventMessage_rebuilds.normalForm_idem,
    generalMessage_rebuilds.normalForm_idem,
    fun _ _ _ _ hd hd' => eventMessage_rebuilds.normalForm_eq_iff hd hd',
    fun _ _ _ _ hd hd' => generalMessage_rebuilds.normalForm_eq_iff hd hd'⟩

def requestOctets : List UInt8 :=
  EventMessage.toWire (.delayReq ⟨⟨7⟩⟩) (.new ⟨3⟩ ⟨⟨Octets.ofList [1, 2, 3, 4, 5, 6, 7, 8] rfl⟩, ⟨1⟩⟩)

/-- The same request with a correction field, and an octet of its timestamp, that nobody reads. -/
def correctedOctets : List UInt8 := (requestOctets.set 8 255).set 40 9

theorem ingress_normalForm_corrected :
    correctedOctets ≠ requestOctets ∧
      MessageIngress.receiveEvent recordingIngress (⟨⟨3⟩, []⟩ : SingleDomainPortMap _)
          requestOctets (stampOf 0) =
        MessageIngress.receiveEvent recordingIngress ⟨⟨3⟩, []⟩ correctedOctets (stampOf 0) := by
  have hnormal : normalForm EventMessage.new EventMessage.toWire correctedOctets = requestOctets := by
    decide +kernel
  obtain ⟨hreceive, -⟩ := ingress_normalForm recordingIngress
    (⟨⟨3⟩, []⟩ : SingleDomainPortMap (List (PortIdentity × (EventMessage ⊕ GeneralMessage))))
    (stampOf 0) (.fromSecs 0)
  refine ⟨by decide +kernel, ?_⟩
  rw [← hnormal]
  exact hreceive correctedOctets

end Rptp
