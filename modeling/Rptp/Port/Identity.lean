import Rptp.Clock.Quality

/-! # Port numbers, port identities and domain numbers -/

namespace Rptp

open Machine

structure PortNumber where
  value : UInt16
deriving DecidableEq

instance : Ord PortNumber := ⟨compareOn PortNumber.value⟩

structure DomainNumber where
  value : UInt8
deriving DecidableEq

/-- A clock identity with a port number, as carried in every message header. -/
structure PortIdentity where
  clockIdentity : ClockIdentity
  portNumber : PortNumber
deriving DecidableEq

/-- The derived order: clock identity first. -/
instance : Ord PortIdentity :=
  ⟨compareLex (compareOn PortIdentity.clockIdentity) (compareOn PortIdentity.portNumber)⟩

namespace PortIdentity

def compareByPortNumber (a b : PortIdentity) : Ordering := compare a.portNumber b.portNumber

def fromWire (buf : Octets 10) : PortIdentity where
  clockIdentity := ⟨buf.range 0 8 (by decide)⟩
  portNumber := ⟨UInt16.ofNat (ofBe (buf.range 8 2 (by decide)).toList)⟩

def toWire (p : PortIdentity) : Octets 10 :=
  Octets.ofList (p.clockIdentity.id.toList ++ toBe 2 p.portNumber.value.toNat) (by simp)

theorem fromWire_toWire (p : PortIdentity) : fromWire p.toWire = p := by
  have hid : p.toWire.range 0 8 (by decide) = p.clockIdentity.id :=
    List.Vector.eq _ _ (Octets.range_toList [] _ _ rfl rfl (by simp) _)
  have hport : (p.toWire.range 8 2 (by decide)).toList = toBe 2 p.portNumber.value.toNat :=
    Octets.range_toList p.clockIdentity.id.toList _ [] (by simp [toWire]) (by simp) (by simp) _
  rw [fromWire, hid, hport, ofBe_uint16]

end PortIdentity

/-- The selected parent of a port. -/
structure ParentPortIdentity where
  parentPortIdentity : PortIdentity
deriving DecidableEq

namespace ParentPortIdentity

def matchesSource (p : ParentPortIdentity) (sourcePortIdentity : PortIdentity) : Bool :=
  p.parentPortIdentity == sourcePortIdentity

end ParentPortIdentity

end Rptp
