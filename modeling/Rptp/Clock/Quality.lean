import Rptp.Machine.Bytes

/-! # Clock identity and quality

Class and accuracy keep the constructors of the source. Their order is the order of the raw
octet, so two representations of one octet compare equal without being equal.
-/

namespace Rptp

open Machine Std

/-- The eight octets that identify a clock. -/
structure ClockIdentity where
  id : Octets 8
deriving DecidableEq

namespace ClockIdentity

/-- The derived order is lexicographic on the octets. -/
instance : Ord ClockIdentity := ⟨compareOn fun c => c.id.toList⟩

instance : TransOrd ClockIdentity :=
  inferInstanceAs (TransCmp (compareOn fun c : ClockIdentity => c.id.toList))

instance : LawfulEqOrd ClockIdentity where
  eq_of_compare {a b} h := by
    have hl : compare a.id.toList b.id.toList = .eq := h
    cases a
    cases b
    congr 1
    exact List.Vector.eq _ _ (LawfulEqCmp.eq_of_compare hl)

end ClockIdentity

inductive ClockClass where
  | reserved (v : UInt8)
  | primaryReference
  | primaryHoldover
  | applicationSpecific
  | applicationHoldover
  | primaryHoldoverDegradedA
  | applicationHoldoverDegradedA
  | primaryHoldoverDegradedB
  | applicationHoldoverDegradedB
  | default
  | v1Compatibility
  | slaveOnly
  | alternateProfile (v : UInt8)
deriving DecidableEq

namespace ClockClass

def new (value : UInt8) : ClockClass :=
  let v := value.toNat
  if v = 6 then primaryReference
  else if v = 7 then primaryHoldover
  else if v = 13 then applicationSpecific
  else if v = 14 then applicationHoldover
  else if v = 52 then primaryHoldoverDegradedA
  else if v = 58 then applicationHoldoverDegradedA
  else if (68 ≤ v ∧ v ≤ 122) ∨ (133 ≤ v ∧ v ≤ 170) ∨ (216 ≤ v ∧ v ≤ 232) then
    alternateProfile value
  else if v = 187 then primaryHoldoverDegradedB
  else if v = 193 then applicationHoldoverDegradedB
  else if v = 248 then default
  else if v = 251 then v1Compatibility
  else if v = 255 then slaveOnly
  else reserved value

def asU8 : ClockClass → UInt8
  | reserved v => v
  | alternateProfile v => v
  | primaryReference => 6
  | primaryHoldover => 7
  | applicationSpecific => 13
  | applicationHoldover => 14
  | primaryHoldoverDegradedA => 52
  | applicationHoldoverDegradedA => 58
  | primaryHoldoverDegradedB => 187
  | applicationHoldoverDegradedB => 193
  | default => 248
  | v1Compatibility => 251
  | slaveOnly => 255

/-- Class 1 to 127: a clock that represents an external time source. -/
def isAuthoritative (c : ClockClass) : Bool := decide (1 ≤ c.asU8.toNat ∧ c.asU8.toNat ≤ 127)

instance : Ord ClockClass := ⟨compareOn asU8⟩

instance : TransOrd ClockClass := inferInstanceAs (TransCmp (compareOn asU8))

/-- The form that reading the octet gives. -/
def Canonical (c : ClockClass) : Prop := new c.asU8 = c

theorem asU8_new (v : UInt8) : (new v).asU8 = v := by
  have h : ∀ i : Fin 256, (new (UInt8.ofNat i)).asU8 = UInt8.ofNat i := by decide +kernel
  simpa using h v.toFin

end ClockClass

inductive ClockAccuracy where
  | reserved (v : UInt8)
  | within25ns
  | within100ns
  | within250ns
  | within1us
  | within2_5us
  | within10us
  | within25us
  | within100us
  | within250us
  | within1ms
  | within2_5ms
  | within10ms
  | within25ms
  | within100ms
  | within250ms
  | within1s
  | within10s
  | greaterThan10s
  | alternateProfile (v : UInt8)
  | unknown
deriving DecidableEq

namespace ClockAccuracy

/-- The accuracies with a value of their own, from `0x20` to `0x31`. -/
def named : List ClockAccuracy :=
  [within25ns, within100ns, within250ns, within1us, within2_5us, within10us, within25us,
    within100us, within250us, within1ms, within2_5ms, within10ms, within25ms, within100ms,
    within250ms, within1s, within10s, greaterThan10s]

def new (value : UInt8) : ClockAccuracy :=
  let v := value.toNat
  if v ≤ 0x1F then reserved value
  else if h : v ≤ 0x31 then named.get ⟨v - 0x20, by simp only [named, List.length]; omega⟩
  else if v ≤ 0x7F then reserved value
  else if v ≤ 0xFD then alternateProfile value
  else if v = 0xFE then unknown
  else reserved value

def asU8 : ClockAccuracy → UInt8
  | reserved v => v
  | alternateProfile v => v
  | within25ns => 0x20
  | within100ns => 0x21
  | within250ns => 0x22
  | within1us => 0x23
  | within2_5us => 0x24
  | within10us => 0x25
  | within25us => 0x26
  | within100us => 0x27
  | within250us => 0x28
  | within1ms => 0x29
  | within2_5ms => 0x2A
  | within10ms => 0x2B
  | within25ms => 0x2C
  | within100ms => 0x2D
  | within250ms => 0x2E
  | within1s => 0x2F
  | within10s => 0x30
  | greaterThan10s => 0x31
  | unknown => 0xFE

instance : Ord ClockAccuracy := ⟨compareOn asU8⟩

instance : TransOrd ClockAccuracy := inferInstanceAs (TransCmp (compareOn asU8))

/-- The form that reading the octet gives. -/
def Canonical (c : ClockAccuracy) : Prop := new c.asU8 = c

theorem named_asU8 (i : Fin named.length) : (named.get i).asU8.toNat = 0x20 + i := by
  revert i
  decide

theorem asU8_new (v : UInt8) : (new v).asU8 = v := by
  apply UInt8.toNat_inj.mp
  unfold new
  dsimp only
  split_ifs with h1 h2 h3 h4 h5
  · rfl
  · rw [named_asU8]
    dsimp only
    omega
  · rfl
  · rfl
  · rw [h5]
    rfl
  · rfl

end ClockAccuracy

structure ClockQuality where
  clockClass : ClockClass
  clockAccuracy : ClockAccuracy
  offsetScaledLogVariance : UInt16
deriving DecidableEq

namespace ClockQuality

def isAuthoritative (q : ClockQuality) : Bool := q.clockClass.isAuthoritative

def fromWire (buf : Octets 4) : ClockQuality where
  clockClass := ClockClass.new (buf.get 0)
  clockAccuracy := ClockAccuracy.new (buf.get 1)
  offsetScaledLogVariance := UInt16.ofNat (ofBe [buf.get 2, buf.get 3])

def toWire (q : ClockQuality) : Octets 4 :=
  Octets.ofList ([q.clockClass.asU8, q.clockAccuracy.asU8] ++
    toBe 2 q.offsetScaledLogVariance.toNat) (by simp)

/-- Class, then accuracy, then variance. -/
instance : Ord ClockQuality :=
  ⟨compareLex (compareOn clockClass)
    (compareLex (compareOn clockAccuracy) (compareOn offsetScaledLogVariance))⟩

instance : TransOrd ClockQuality := inferInstanceAs (TransCmp (compareLex _ _))

/-- Class and accuracy are in the form their constructors produce. -/
def Canonical (q : ClockQuality) : Prop := q.clockClass.Canonical ∧ q.clockAccuracy.Canonical

theorem fromWire_toWire (q : ClockQuality) (h : q.Canonical) : fromWire q.toWire = q := by
  have hv : UInt16.ofNat (ofBe (toBe 2 q.offsetScaledLogVariance.toNat)) =
      q.offsetScaledLogVariance := ofBe_uint16 _
  change ClockQuality.mk (ClockClass.new q.clockClass.asU8)
    (ClockAccuracy.new q.clockAccuracy.asU8)
    (UInt16.ofNat (ofBe (toBe 2 q.offsetScaledLogVariance.toNat))) = q
  rw [h.1, h.2, hv]

theorem fromWire_canonical (buf : Octets 4) : (fromWire buf).Canonical := by
  constructor
  · change ClockClass.new (ClockClass.new _).asU8 = _
    rw [ClockClass.asU8_new]
    rfl
  · change ClockAccuracy.new (ClockAccuracy.new _).asU8 = _
    rw [ClockAccuracy.asU8_new]
    rfl

end ClockQuality

/-- The time scale of a clock, carried in Announce messages. -/
inductive TimeScale where
  | ptp
  | arb
deriving DecidableEq

end Rptp
