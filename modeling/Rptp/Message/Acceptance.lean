import Rptp.Message.Ingress
import Mathlib.Data.Nat.Bitwise

/-! # Which datagrams are accepted

The predicates below read the octets of a datagram and say nothing about how it is decoded. A
datagram that meets them is decoded and one that does not is rejected, and nothing panics.
-/

namespace Rptp

open Machine

namespace Parsed

variable {α β : Type}

@[simp] theorem lift_ok_bind (a : α) (f : α → Parsed β) :
    ((liftM (Except.ok a : Checked α) : Parsed α) >>= f) = f a := rfl

theorem mk_ok_bind (a : α) (f : α → Parsed β) :
    ((ExceptT.mk (.ok (.ok a)) : Parsed α) >>= f) = f a := rfl

@[simp] theorem reject_bind (e : Error) (f : α → Parsed β) : (reject e >>= f) = reject e := rfl

@[simp] theorem okOr_some (e : Error) (a : α) : okOr e (some a) = pure a := rfl

@[simp] theorem okOr_none (e : Error) : okOr e (none : Option α) = reject e := rfl

/-- The computation returns a value. -/
def Accepts (x : Parsed α) : Prop := ∃ a, x = pure a

/-- The computation rejects its input. -/
def Rejects (x : Parsed α) : Prop := ∃ e, x = reject e

theorem accepts_map {x : Parsed α} (f : α → Parsed β) (hf : ∀ a, (f a).Accepts)
    (h : x.Accepts) : (x >>= f).Accepts := by
  obtain ⟨a, rfl⟩ := h
  rw [pure_bind]
  exact hf a

theorem rejects_bind {x : Parsed α} (f : α → Parsed β) (h : x.Rejects) : (x >>= f).Rejects := by
  obtain ⟨e, rfl⟩ := h
  exact ⟨e, rfl⟩

end Parsed

/-- Octet `i` of a datagram. -/
def octet (buf : List UInt8) (i : ℕ) : UInt8 := buf.getD i 0

/-- The `len` octets of a datagram from `start` on. -/
def field (buf : List UInt8) (start len : ℕ) : List UInt8 := (buf.drop start).take len

/-- At least a header, version 2, and the declared length is the length. -/
structure WellFramed (buf : List UInt8) : Prop where
  header : 34 ≤ buf.length
  version : octet buf 1 &&& 0x0F = 2
  declared : ofBe (field buf 2 2) = buf.length

def typeNibble (buf : List UInt8) : UInt8 := octet buf 0 &&& 0x0F

/-- The two-step bit of the flag field. -/
def TwoStepFlag (buf : List UInt8) : Prop := octet buf 6 &&& 0x02 ≠ 0

def datagramPayload (buf : List UInt8) : List UInt8 := buf.drop 34

/-- The payload starts with a timestamp whose nanoseconds are in range. -/
def HasTimestamp (payload : List UInt8) : Prop :=
  10 ≤ payload.length ∧ ofBe (field payload 6 4) < 1000000000

def AdmissibleEvent (buf : List UInt8) : Prop :=
  (typeNibble buf = 0x00 ∧ TwoStepFlag buf) ∨
    (typeNibble buf = 0x00 ∧ ¬ TwoStepFlag buf ∧ HasTimestamp (datagramPayload buf)) ∨
    typeNibble buf = 0x01

def AdmissibleGeneral (buf : List UInt8) : Prop :=
  (typeNibble buf = 0x0B ∧ 29 ≤ (datagramPayload buf).length) ∨
    (typeNibble buf = 0x08 ∧ HasTimestamp (datagramPayload buf)) ∨
    (typeNibble buf = 0x09 ∧ HasTimestamp (datagramPayload buf) ∧
      20 ≤ (datagramPayload buf).length)

section Header

variable {buf : List UInt8}

theorem index_octet {i : ℕ} (h : i < buf.length) : index buf i = .ok (octet buf i) := by
  rw [index_eq h, octet, List.getD_eq_getElem?_getD, List.getElem?_eq_getElem h]
  rfl

theorem slice_field {start stop : ℕ} (h : start ≤ stop) (h' : stop ≤ buf.length) :
    slice buf start stop = .ok (field buf start (stop - start)) := slice_eq h h'

theorem field_length {start len : ℕ} (h : start + len ≤ buf.length) :
    (field buf start len).length = len := by
  simp only [field, List.length_take, List.length_drop]
  omega

theorem unwrapOctets_field {start len : ℕ} (h : start + len ≤ buf.length) :
    MessageHeader.unwrapOctets len (field buf start len) =
      .ok (Octets.ofList (field buf start len) (field_length h)) := by
  rw [MessageHeader.unwrapOctets, tryIntoOctets_eq (field_length h)]
  rfl

theorem lengthCheckedV2_accepts (h : WellFramed buf) : lengthCheckedV2 buf = pure buf := by
  have hl := h.header
  rw [lengthCheckedV2, ptpHeaderLen, if_neg (by omega)]
  simp only [index_octet (show 1 < buf.length by omega), slice_field (show 2 ≤ 4 by omega)
    (show 4 ≤ buf.length by omega), Parsed.lift_ok_bind, h.version, ne_eq, not_true, if_false]
  rw [tryIntoOctets_eq (field_length (by omega)), Parsed.okOr_some, pure_bind]
  change (if ofBe (field buf 2 2) ≠ buf.length then _ else _) = _
  rw [if_neg (by simpa using h.declared)]

theorem lengthCheckedV2_rejects (h : ¬ WellFramed buf) : (lengthCheckedV2 buf).Rejects := by
  rw [lengthCheckedV2, ptpHeaderLen]
  by_cases hl : buf.length < 34
  · rw [if_pos hl]
    exact ⟨_, rfl⟩
  · rw [if_neg hl]
    simp only [index_octet (show 1 < buf.length by omega), slice_field (show 2 ≤ 4 by omega)
      (show 4 ≤ buf.length by omega), Parsed.lift_ok_bind]
    by_cases hv : octet buf 1 &&& 0x0F = 2
    · rw [if_neg (by simpa using hv)]
      rw [tryIntoOctets_eq (field_length (by omega)), Parsed.okOr_some, pure_bind]
      change (if ofBe (field buf 2 2) ≠ buf.length then _ else _ : Parsed _).Rejects
      rw [if_pos (fun hd => h ⟨by omega, hv, hd⟩)]
      exact ⟨_, rfl⟩
    · rw [if_pos hv]
      exact ⟨_, rfl⟩

/-- The header fields of a datagram that has a header. -/
def headerDomain (buf : List UInt8) : DomainNumber := ⟨octet buf 4⟩

def headerSequenceId (buf : List UInt8) : SequenceId := ⟨UInt16.ofNat (ofBe (field buf 30 2))⟩

def headerFlags (buf : List UInt8) : MessageFlags :=
  MessageFlags.fromBitsTruncate (UInt16.ofNat (ofBe (field buf 6 2)))

def headerLogInterval (buf : List UInt8) : LogMessageInterval := ⟨(octet buf 33).toInt8⟩

def headerSource (buf : List UInt8) (h : 34 ≤ buf.length) : PortIdentity :=
  PortIdentity.fromWire (Octets.ofList (field buf 20 10) (field_length (by omega)))

variable {P PM M : Type} [PortMap PM P]

/-- The body of a datagram: message type, then decoder. -/
def decodeBody (new : DomainMessage.Decoder M) (buf : List UInt8) : Parsed M := do
  let msgType ← MessageType.fromNibble (typeNibble buf)
  new msgType (headerSequenceId buf) (headerFlags buf) (headerLogInterval buf)
    (datagramPayload buf)

/-- The decoding of a datagram that has a header, with every header read carried out. -/
theorem decode_eq (h : 34 ≤ buf.length) (new : DomainMessage.Decoder M) (ports : PM) :
    DomainMessage.decode new ports ⟨buf⟩ = (do
      let port ← ExceptT.mk (.ok (PortMap.portByDomain ports (headerDomain buf)))
      let msg ← decodeBody new buf
      pure (headerDomain buf, port, headerSource buf h, msg)) := by
  have hpay : slice buf 34 buf.length = .ok (datagramPayload buf) := by
    rw [slice_eq h le_rfl, datagramPayload, List.take_of_length_le (by simp)]
  unfold DomainMessage.decode
  simp only [MessageHeader.domainNumber, MessageHeader.sourcePortIdentity,
    MessageHeader.messageType, MessageHeader.sequenceId, MessageHeader.flags,
    MessageHeader.logMessageInterval, MessageHeader.payload, hpay,
    index_octet (show 0 < buf.length by omega), index_octet (show 4 < buf.length by omega),
    index_octet (show 33 < buf.length by omega),
    slice_field (show 30 ≤ 32 by omega) (show 32 ≤ buf.length by omega),
    slice_field (show 6 ≤ 8 by omega) (show 8 ≤ buf.length by omega),
    slice_field (show 20 ≤ 30 by omega) (show 30 ≤ buf.length by omega), Nat.reduceSub,
    unwrapOctets_field (show 30 + 2 ≤ buf.length by omega),
    unwrapOctets_field (show 6 + 2 ≤ buf.length by omega),
    unwrapOctets_field (show 20 + 10 ≤ buf.length by omega), Checked.ok_bind, Checked.pure_eq,
    Parsed.lift_ok_bind, decodeBody, bind_assoc]
  rfl

end Header

section Body

variable {buf payload : List UInt8}

theorem field_two {start : ℕ} (h : start + 2 ≤ buf.length) :
    field buf start 2 = [octet buf start, octet buf (start + 1)] := by
  apply List.ext_getElem
  · rw [field_length h]
    rfl
  · intro i h1 h2
    have hi : i = 0 ∨ i = 1 := by
      simp only [List.length_cons, List.length_nil] at h2
      omega
    rcases hi with rfl | rfl
    · simp [field, octet, List.getD_eq_getElem?_getD, show start < buf.length by omega]
    · simp [field, octet, List.getD_eq_getElem?_getD, show start + 1 < buf.length by omega]

theorem twoStep_iff (a b : UInt8) :
    (MessageFlags.fromBitsTruncate (UInt16.ofNat (ofBe [a, b]))).contains .twoStep = true ↔
      a &&& 0x02 ≠ 0 := by
  have ha := a.toNat_lt
  have hb := b.toNat_lt
  have hn : ofBe [a, b] = 2 ^ 8 * a.toNat + b.toNat := by simp [ofBe]
  have hmask : (0x0208 &&& 0x0200 : UInt16) = 0x0200 := rfl
  have hword : (MessageFlags.fromBitsTruncate (UInt16.ofNat (ofBe [a, b]))).contains
      .twoStep = true ↔ (ofBe [a, b]).testBit 9 = true := by
    simp only [MessageFlags.contains, MessageFlags.fromBitsTruncate, MessageFlags.twoStep,
      beq_iff_eq, UInt16.and_assoc, hmask]
    rw [← UInt16.toNat_inj, UInt16.toNat_and, UInt16.toNat_ofNat', Nat.mod_eq_of_lt (by omega)]
    change _ &&& 2 ^ 9 = 2 ^ 9 ↔ _
    rw [Nat.and_two_pow]
    cases (ofBe [a, b]).testBit 9 <;> simp
  have hbyte : a &&& 0x02 ≠ 0 ↔ a.toNat.testBit 1 = true := by
    rw [ne_eq, ← UInt8.toNat_inj, UInt8.toNat_and]
    change ¬ a.toNat &&& 2 ^ 1 = 0 ↔ _
    rw [Nat.and_two_pow]
    cases a.toNat.testBit 1 <;> simp
  rw [hword, hbyte, hn, Nat.testBit_two_pow_mul_add _ hb]
  simp

theorem headerFlags_twoStep (h : 34 ≤ buf.length) :
    (headerFlags buf).contains .twoStep = true ↔ TwoStepFlag buf := by
  rw [headerFlags, field_two (by omega), twoStep_iff, TwoStepFlag]

theorem payloadField_accepts (name : String) {start stop : ℕ} (h : start ≤ stop)
    (h' : stop ≤ payload.length) :
    payloadField payload name start stop =
      pure (Octets.ofList (field payload start (stop - start)) (field_length (by omega))) := by
  rw [payloadField, getRange_eq h h', Parsed.okOr_some, pure_bind]
  change Parsed.okOr _ (tryIntoOctets (stop - start) (field payload start (stop - start))) = _
  rw [tryIntoOctets_eq (field_length (by omega)), Parsed.okOr_some]

theorem payloadField_rejects (name : String) (start : ℕ) {stop : ℕ} (h : payload.length < stop) :
    (payloadField payload name start stop).Rejects := by
  rw [payloadField, getRange_eq_none h, Parsed.okOr_none]
  exact ⟨_, rfl⟩

/-- The nanoseconds decide, and the 48-bit seconds never fail the assertion of `TimeStamp`. -/
theorem wireTimestamp_accepts {b : Octets 10}
    (h : ofBe (b.range 6 4 (by decide)).toList < 1000000000) : (wireTimestamp b).Accepts := by
  have hm := ofBe_lt (b.range 0 2 (by decide)).toList
  have hl := ofBe_lt (b.range 2 4 (by decide)).toList
  simp only [List.Vector.toList_length] at hm hl
  rw [wireTimestamp, if_pos h, TimeStamp.new_eq (by omega) h]
  exact ⟨_, rfl⟩

theorem wireTimestamp_rejects {b : Octets 10}
    (h : ¬ ofBe (b.range 6 4 (by decide)).toList < 1000000000) : (wireTimestamp b).Rejects := by
  rw [wireTimestamp, if_neg h]
  exact ⟨_, rfl⟩

theorem range_nanos (h : 10 ≤ payload.length) :
    ((Octets.ofList (field payload 0 (10 - 0)) (field_length (by omega))).range 6 4
      (by decide)).toList = field payload 6 4 := by
  change ((field payload 0 10).drop 6).take 4 = _
  rw [field, List.drop_zero, List.drop_take, List.take_take]
  rfl

theorem timestampField_accepts (name : String) (h : HasTimestamp payload) :
    (timestampField payload name).Accepts := by
  rw [timestampField, payloadField_accepts name (by omega) h.1, pure_bind]
  apply wireTimestamp_accepts
  rw [range_nanos h.1]
  exact h.2

theorem timestampField_rejects (name : String) (h : ¬ HasTimestamp payload) :
    (timestampField payload name).Rejects := by
  by_cases hl : 10 ≤ payload.length
  · rw [timestampField, payloadField_accepts name (by omega) hl, pure_bind]
    apply wireTimestamp_rejects
    rw [range_nanos hl]
    exact fun hn => h ⟨hl, hn⟩
  · exact Parsed.rejects_bind _ (payloadField_rejects name 0 (by omega))

theorem fromNibble_cases (n : UInt8) :
    (n = 0x00 ∧ MessageType.fromNibble n = pure .sync) ∨
    (n = 0x01 ∧ MessageType.fromNibble n = pure .delayRequest) ∨
    (n = 0x08 ∧ MessageType.fromNibble n = pure .followUp) ∨
    (n = 0x09 ∧ MessageType.fromNibble n = pure .delayResponse) ∨
    (n = 0x0B ∧ MessageType.fromNibble n = pure .announce) ∨
    (n ≠ 0x00 ∧ n ≠ 0x01 ∧ n ≠ 0x08 ∧ n ≠ 0x09 ∧ n ≠ 0x0B ∧
      (MessageType.fromNibble n).Rejects) := by
  unfold MessageType.fromNibble
  split_ifs with h0 h1 h8 h9 hB
  · exact .inl ⟨h0, rfl⟩
  · exact .inr (.inl ⟨h1, rfl⟩)
  · exact .inr (.inr (.inl ⟨h8, rfl⟩))
  · exact .inr (.inr (.inr (.inl ⟨h9, rfl⟩)))
  · exact .inr (.inr (.inr (.inr (.inl ⟨hB, rfl⟩))))
  · exact .inr (.inr (.inr (.inr (.inr ⟨h0, h1, h8, h9, hB, _, rfl⟩))))

variable {M : Type}

/-- The decoder accepts exactly the datagrams with an admissible body. -/
def DecidesBody (new : DomainMessage.Decoder M) (admissible : List UInt8 → Prop) : Prop :=
  ∀ buf, 34 ≤ buf.length →
    (admissible buf → (decodeBody new buf).Accepts) ∧
      (¬ admissible buf → (decodeBody new buf).Rejects)

theorem eventMessage_decidesBody : DecidesBody EventMessage.new AdmissibleEvent := by
  intro buf hlen
  have hflag := headerFlags_twoStep hlen
  unfold decodeBody AdmissibleEvent
  rcases fromNibble_cases (typeNibble buf) with
    ⟨hn, hty⟩ | ⟨hn, hty⟩ | ⟨hn, hty⟩ | ⟨hn, hty⟩ | ⟨hn, hty⟩ | ⟨h0, h1, -, -, -, hty⟩
  · rw [hty, pure_bind]
    by_cases htwo : TwoStepFlag buf
    · have hacc : (EventMessage.new .sync (headerSequenceId buf) (headerFlags buf)
          (headerLogInterval buf) (datagramPayload buf)).Accepts := by
        rw [EventMessage.new, if_pos (hflag.mpr htwo)]
        exact ⟨_, rfl⟩
      exact ⟨fun _ => hacc, fun hna => absurd (.inl ⟨hn, htwo⟩) hna⟩
    · simp only [EventMessage.new, mt hflag.mp htwo, syncOriginTimestamp]
      constructor
      · rintro (⟨-, h⟩ | ⟨-, -, h⟩ | h)
        · exact absurd h htwo
        · exact Parsed.accepts_map _ (fun a => ⟨_, rfl⟩) (timestampField_accepts _ h)
        · rw [hn] at h
          exact absurd h (by decide)
      · intro hna
        exact Parsed.rejects_bind _
          (timestampField_rejects _ fun h => hna (.inr (.inl ⟨hn, htwo, h⟩)))
  · rw [hty, pure_bind]
    exact ⟨fun _ => ⟨_, rfl⟩, fun hna => absurd (.inr (.inr hn)) hna⟩
  all_goals
    refine ⟨?_, fun _ => ?_⟩
    · rintro (⟨h, -⟩ | ⟨h, -, -⟩ | h) <;> simp_all
    · first
      | exact Parsed.rejects_bind _ hty
      | rw [hty, pure_bind]
        exact ⟨_, rfl⟩

theorem announceForeignClockDs_accepts (h : 29 ≤ payload.length) :
    (announceForeignClockDs payload).Accepts := by
  rw [announceForeignClockDs, payloadField_accepts _ (by omega) h]
  exact ⟨_, rfl⟩

theorem requestingPortIdentity_accepts (h : 20 ≤ payload.length) :
    (delayResponseRequestingPortIdentity payload).Accepts := by
  rw [delayResponseRequestingPortIdentity, payloadField_accepts _ (by omega) h]
  exact ⟨_, rfl⟩

theorem generalMessage_decidesBody : DecidesBody GeneralMessage.new AdmissibleGeneral := by
  intro buf hlen
  unfold decodeBody AdmissibleGeneral
  rcases fromNibble_cases (typeNibble buf) with
    ⟨hn, hty⟩ | ⟨hn, hty⟩ | ⟨hn, hty⟩ | ⟨hn, hty⟩ | ⟨hn, hty⟩ | ⟨-, -, h8, h9, hB, hty⟩
  · rw [hty, pure_bind]
    refine ⟨?_, fun _ => ⟨_, rfl⟩⟩
    rintro (⟨h, -⟩ | ⟨h, -⟩ | ⟨h, -⟩) <;> simp_all
  · rw [hty, pure_bind]
    refine ⟨?_, fun _ => ⟨_, rfl⟩⟩
    rintro (⟨h, -⟩ | ⟨h, -⟩ | ⟨h, -⟩) <;> simp_all
  · rw [hty, pure_bind]
    simp only [GeneralMessage.new, followUpPreciseOriginTimestamp]
    by_cases hts : HasTimestamp (datagramPayload buf)
    · exact ⟨fun _ => Parsed.accepts_map _ (fun a => ⟨_, rfl⟩) (timestampField_accepts _ hts),
        fun hna => absurd (.inr (.inl ⟨hn, hts⟩)) hna⟩
    · refine ⟨?_, fun _ => Parsed.rejects_bind _ (timestampField_rejects _ hts)⟩
      rintro (⟨h, -⟩ | ⟨-, h⟩ | ⟨h, -⟩) <;> simp_all
  · rw [hty, pure_bind]
    simp only [GeneralMessage.new, delayResponseReceiveTimestamp]
    by_cases hts : HasTimestamp (datagramPayload buf)
    · obtain ⟨t, ht⟩ := timestampField_accepts "DelayResponse.receive_timestamp" hts
      rw [ht, pure_bind]
      by_cases hid : 20 ≤ (datagramPayload buf).length
      · exact ⟨fun _ => Parsed.accepts_map _ (fun a => ⟨_, rfl⟩)
          (requestingPortIdentity_accepts hid),
          fun hna => absurd (.inr (.inr ⟨hn, hts, hid⟩)) hna⟩
      · have hrej := payloadField_rejects "DelayResponse.requesting_port_identity" 10
          (show (datagramPayload buf).length < 20 by omega)
        refine ⟨?_, fun _ => Parsed.rejects_bind _ (Parsed.rejects_bind _ hrej)⟩
        rintro (⟨h, -⟩ | ⟨h, -⟩ | ⟨-, -, h⟩) <;> simp_all
    · refine ⟨?_, fun _ => Parsed.rejects_bind _ (timestampField_rejects _ hts)⟩
      rintro (⟨h, -⟩ | ⟨h, -⟩ | ⟨-, h, -⟩) <;> simp_all
  · rw [hty, pure_bind]
    simp only [GeneralMessage.new]
    by_cases hds : 29 ≤ (datagramPayload buf).length
    · exact ⟨fun _ => Parsed.accepts_map _ (fun a => ⟨_, rfl⟩)
        (announceForeignClockDs_accepts hds), fun hna => absurd (.inl ⟨hn, hds⟩) hna⟩
    · have hrej := payloadField_rejects "Announce.foreign_clock_ds" 13
        (show (datagramPayload buf).length < 29 by omega)
      refine ⟨?_, fun _ => Parsed.rejects_bind _ (Parsed.rejects_bind _ hrej)⟩
      rintro (⟨-, h⟩ | ⟨h, -⟩ | ⟨h, -⟩) <;> simp_all
  · refine ⟨?_, fun _ => Parsed.rejects_bind _ hty⟩
    rintro (⟨h, -⟩ | ⟨h, -⟩ | ⟨h, -⟩) <;> simp_all

end Body

section Ingress

variable {ε P PM M : Type} [PortMap PM P]

/-- A datagram that is well framed, for a mapped domain and with an admissible body. -/
structure Accepted (admissible : List UInt8 → Prop) (ports : PM) (buf : List UInt8) : Prop where
  framed : WellFramed buf
  mapped : ∃ port, PortMap.portByDomain ports (headerDomain buf) = .ok port
  body : admissible buf

/-- `x` is one call of the port of the datagram's domain and then `Ok` with the port's new state
put back. -/
def OneCallThenOk (ports : PM) (buf : List UInt8) (process : P → PortIdentity → M → Act ε P)
    (x : Act ε (Except Error Unit × PM)) : Prop :=
  ∃ port source msg, PortMap.portByDomain ports (headerDomain buf) = .ok port ∧
    x = (do
      let port' ← process port source msg
      pure (.ok (), PortMap.setPort ports (headerDomain buf) port'))

/-- `x` is `Err` without any call and with every port as it was. -/
def ErrUnchanged (ports : PM) (x : Act ε (Except Error Unit × PM)) : Prop :=
  ∃ e, x = pure (.error e, ports)

theorem not_oneCallThenOk {ports : PM} {buf : List UInt8}
    {process : P → PortIdentity → M → Act ε P} {x : Act ε (Except Error Unit × PM)}
    (h : ErrUnchanged ports x) : ¬ OneCallThenOk ports buf process x := by
  rintro ⟨port, source, msg, -, hx⟩
  obtain ⟨e, rfl⟩ := h
  have hret : Act.Returns (pure (.error e, ports) : Act ε (Except Error Unit × PM))
      (.error e, ports) [] := Act.returns_pure.mpr ⟨rfl, rfl⟩
  rw [hx, Act.returns_bind] at hret
  obtain ⟨p, l, l', -, hok, -⟩ := hret
  simp at hok

theorem dispatch_of_decoded {new : DomainMessage.Decoder M}
    {process : P → PortIdentity → M → Act ε P} {ports : PM} {buf : List UInt8} {port : P} {msg : M}
    (hf : WellFramed buf) (hport : PortMap.portByDomain ports (headerDomain buf) = .ok port)
    (hmsg : decodeBody new buf = pure msg) :
    DomainMessage.dispatch new process ports buf = (do
      let port' ← process port (headerSource buf hf.header) msg
      pure (.ok (), PortMap.setPort ports (headerDomain buf) port')) := by
  have hdecode : ExceptT.run (do
      let checked ← lengthCheckedV2 buf
      DomainMessage.decode new ports ⟨checked⟩) =
      .ok (.ok (headerDomain buf, port, headerSource buf hf.header, msg)) := by
    rw [lengthCheckedV2_accepts hf, pure_bind, decode_eq hf.header, hport, hmsg]
    rfl
  rw [DomainMessage.dispatch, hdecode, Act.lift_ok, pure_bind]

theorem dispatch_rejected {new : DomainMessage.Decoder M} {admissible : List UInt8 → Prop}
    (hdec : DecidesBody new admissible) (process : P → PortIdentity → M → Act ε P) {ports : PM}
    {buf : List UInt8} (h : ¬ Accepted admissible ports buf) :
    ErrUnchanged ports (DomainMessage.dispatch new process ports buf) := by
  have hrej : Parsed.Rejects (do
      let checked ← lengthCheckedV2 buf
      DomainMessage.decode new ports ⟨checked⟩) := by
    by_cases hf : WellFramed buf
    · rw [lengthCheckedV2_accepts hf, pure_bind, decode_eq hf.header]
      cases hport : PortMap.portByDomain ports (headerDomain buf) with
      | error e => exact ⟨e, rfl⟩
      | ok port =>
        have hb := (hdec buf hf.header).2 fun hb => h ⟨hf, ⟨port, hport⟩, hb⟩
        rw [Parsed.mk_ok_bind]
        exact Parsed.rejects_bind _ hb
    · exact Parsed.rejects_bind _ (lengthCheckedV2_rejects hf)
  obtain ⟨e, he⟩ := hrej
  refine ⟨e, ?_⟩
  rw [DomainMessage.dispatch, he]
  exact Act.ret_bind _ _

theorem dispatch_oneCall {new : DomainMessage.Decoder M} {admissible : List UInt8 → Prop}
    (hdec : DecidesBody new admissible) (process : P → PortIdentity → M → Act ε P) {ports : PM}
    {buf : List UInt8} (h : Accepted admissible ports buf) :
    OneCallThenOk ports buf process (DomainMessage.dispatch new process ports buf) := by
  obtain ⟨port, hport⟩ := h.mapped
  obtain ⟨msg, hmsg⟩ := (hdec buf h.framed.header).1 h.body
  exact ⟨port, _, msg, hport, dispatch_of_decoded h.framed hport hmsg⟩

/-- Acceptance is exact: one call and `Ok`, or no call and an error. -/
theorem dispatch_exact {new : DomainMessage.Decoder M} {admissible : List UInt8 → Prop}
    (hdec : DecidesBody new admissible) (process : P → PortIdentity → M → Act ε P) (ports : PM)
    (buf : List UInt8) :
    (OneCallThenOk ports buf process (DomainMessage.dispatch new process ports buf) ↔
        Accepted admissible ports buf) ∧
      (ErrUnchanged ports (DomainMessage.dispatch new process ports buf) ↔
        ¬ Accepted admissible ports buf) := by
  by_cases h : Accepted admissible ports buf
  · have hone := dispatch_oneCall hdec process h
    exact ⟨⟨fun _ => h, fun _ => hone⟩, ⟨fun herr => absurd hone (not_oneCallThenOk herr),
      fun hna => absurd h hna⟩⟩
  · have herr := dispatch_rejected hdec process h
    exact ⟨⟨fun hone => absurd hone (not_oneCallThenOk herr), fun ha => absurd ha h⟩,
      ⟨fun _ => h, fun _ => herr⟩⟩

/-- Both ingress operations accept exactly the well-framed datagrams of a mapped domain with an
admissible body. They call the port once on these and never on others. -/
theorem messageIngress_acceptance (ingress : PortIngress ε P) (ports : PM) (buf : List UInt8)
    (timestamp : TimeStamp) (now : Instant) :
    ((OneCallThenOk ports buf
          (fun port source msg => ingress.processEventMessage port source msg timestamp)
          (MessageIngress.receiveEvent ingress ports buf timestamp) ↔
        Accepted AdmissibleEvent ports buf) ∧
      (ErrUnchanged ports (MessageIngress.receiveEvent ingress ports buf timestamp) ↔
        ¬ Accepted AdmissibleEvent ports buf)) ∧
    ((OneCallThenOk ports buf
          (fun port source msg => ingress.processGeneralMessage port source msg now)
          (MessageIngress.receiveGeneral ingress ports buf now) ↔
        Accepted AdmissibleGeneral ports buf) ∧
      (ErrUnchanged ports (MessageIngress.receiveGeneral ingress ports buf now) ↔
        ¬ Accepted AdmissibleGeneral ports buf)) :=
  ⟨dispatch_exact eventMessage_decidesBody _ ports buf,
    dispatch_exact generalMessage_decidesBody _ ports buf⟩

end Ingress

end Rptp
