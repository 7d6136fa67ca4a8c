import Rptp.Port.Identity
import Rptp.Machine.Integer

/-! # The comparison data set and its order

`ClockDS.compare` orders two data sets by priority, quality and identity and leaves data sets of
one grandmaster to the steps removed and the topology tie-break.
-/

namespace Rptp

open Machine Std

structure Priority1 where
  value : UInt8
deriving DecidableEq

instance : Ord Priority1 := ⟨compareOn Priority1.value⟩

instance : TransOrd Priority1 := inferInstanceAs (TransCmp (compareOn Priority1.value))

structure Priority2 where
  value : UInt8
deriving DecidableEq

instance : Ord Priority2 := ⟨compareOn Priority2.value⟩

instance : TransOrd Priority2 := inferInstanceAs (TransCmp (compareOn Priority2.value))

/-- How the topology tie-break ends. The two errors are a receiver that equals its sender and
two identical topologies. -/
inductive TopologyOrdering where
  | better
  | betterByTopology
  | worse
  | worseByTopology
  | error1
  | error2
deriving DecidableEq

namespace TopologyOrdering

def isBetterOrBetterByTopology : TopologyOrdering → Bool
  | better | betterByTopology => true
  | _ => false

def isBetterByTopology : TopologyOrdering → Bool
  | betterByTopology => true
  | _ => false

end TopologyOrdering

structure Topology where
  sender : PortIdentity
  receiver : PortIdentity
deriving DecidableEq

namespace Topology

/-- The topology of the local data set: sender and receiver are the same. -/
def ofLocal (localTopoId : PortIdentity) : Topology := ⟨localTopoId, localTopoId⟩

def compare (a : Topology) (stepsRemovedOrdering : Ordering) (b : Topology) : TopologyOrdering :=
  match stepsRemovedOrdering with
  | .lt =>
    match Ord.compare b.receiver b.sender with
    | .lt => .better
    | .gt => .betterByTopology
    | .eq => .error1
  | .gt =>
    match Ord.compare a.receiver a.sender with
    | .lt => .worse
    | .gt => .worseByTopology
    | .eq => .error1
  | .eq =>
    match Ord.compare a.sender b.sender with
    | .lt => .betterByTopology
    | .gt => .worseByTopology
    | .eq =>
      match a.receiver.compareByPortNumber b.receiver with
      | .lt => .betterByTopology
      | .gt => .worseByTopology
      | .eq => .error2

end Topology

inductive ClockDSComparisonResult where
  | better
  | worse
  | topologyTieBreak (stepsRemovedOrdering : Ordering)
deriving DecidableEq

/-- The number of paths between a clock and its grandmaster, a `u16`. -/
structure StepsRemoved where
  value : UInt16
deriving DecidableEq

namespace StepsRemoved

/-- One step more, up to the largest value. -/
def incremented (s : StepsRemoved) : StepsRemoved := ⟨UInt16.ofNat (saturating 16 (s.value.toNat + 1))⟩

def compare (a b : StepsRemoved) : ClockDSComparisonResult :=
  if saturating 16 (a.value.toNat + 1) < b.value.toNat then .better
  else if saturating 16 (b.value.toNat + 1) < a.value.toNat then .worse
  else .topologyTieBreak (Ord.compare a.value b.value)

end StepsRemoved

/-- The data set of a grandmaster candidate. -/
structure ClockDS where
  identity : ClockIdentity
  priority1 : Priority1
  priority2 : Priority2
  quality : ClockQuality
  stepsRemoved : StepsRemoved
deriving DecidableEq

namespace ClockDS

def withAddedStep (ds : ClockDS) : ClockDS := { ds with stepsRemoved := ds.stepsRemoved.incremented }

def isAuthoritative (ds : ClockDS) : Bool := ds.quality.isAuthoritative

/-- The lexicographic order on priority 1, quality, priority 2 and identity. -/
def lexicographic : ClockDS → ClockDS → Ordering :=
  compareLex (compareOn priority1)
    (compareLex (compareOn quality) (compareLex (compareOn priority2) (compareOn identity)))

def compare (a b : ClockDS) : Checked ClockDSComparisonResult :=
  if a.identity = b.identity then pure (a.stepsRemoved.compare b.stepsRemoved)
  else
    match lexicographic a b with
    | .lt => pure .better
    | .gt => pure .worse
    | .eq => .error (.unreachable "datasets should at least differ in identity")

def fromWire (buf : Octets 16) : ClockDS where
  identity := ⟨buf.range 6 8 (by decide)⟩
  priority1 := ⟨buf.get 0⟩
  priority2 := ⟨buf.get 5⟩
  quality := ClockQuality.fromWire (buf.range 1 4 (by decide))
  stepsRemoved := ⟨UInt16.ofNat (ofBe (buf.range 14 2 (by decide)).toList)⟩

def toWire (ds : ClockDS) : Octets 16 :=
  Octets.ofList ([ds.priority1.value] ++ ds.quality.toWire.toList ++ [ds.priority2.value] ++
    ds.identity.id.toList ++ toBe 2 ds.stepsRemoved.value.toNat) (by simp)

instance : TransCmp lexicographic := inferInstanceAs (TransCmp (compareLex _ _))

theorem identity_eq_of_lexicographic {a b : ClockDS} (h : lexicographic a b = .eq) :
    a.identity = b.identity := by
  simp only [lexicographic, compareLex_eq_eq] at h
  exact LawfulEqCmp.eq_of_compare h.2.2.2

/-- Data sets of different clocks compare by the lexicographic order, which never ties. -/
theorem compare_of_identity_ne {a b : ClockDS} (h : a.identity ≠ b.identity) :
    (lexicographic a b = .lt ∧ a.compare b = .ok .better) ∨
      (lexicographic a b = .gt ∧ a.compare b = .ok .worse) := by
  rw [compare, if_neg h]
  cases hl : lexicographic a b with
  | lt => exact .inl ⟨rfl, rfl⟩
  | gt => exact .inr ⟨rfl, rfl⟩
  | eq => exact absurd (identity_eq_of_lexicographic hl) h

theorem compare_returns (a b : ClockDS) : ∃ r, a.compare b = .ok r := by
  by_cases h : a.identity = b.identity
  · exact ⟨_, if_pos h⟩
  · rcases compare_of_identity_ne h with ⟨-, hc⟩ | ⟨-, hc⟩
    · exact ⟨_, hc⟩
    · exact ⟨_, hc⟩

/-- The quality is in the form its constructors produce. -/
def Canonical (ds : ClockDS) : Prop := ds.quality.Canonical

theorem fromWire_toWire (ds : ClockDS) (h : ds.Canonical) : fromWire ds.toWire = ds := by
  have hq : ds.toWire.range 1 4 (by decide) = ds.quality.toWire := by
    apply List.Vector.eq
    exact Octets.range_toList [ds.priority1.value] _
      ([ds.priority2.value] ++ ds.identity.id.toList ++ toBe 2 ds.stepsRemoved.value.toNat)
      (by simp [toWire]) (by simp) (by simp) _
  have hid : ds.toWire.range 6 8 (by decide) = ds.identity.id := by
    apply List.Vector.eq
    exact Octets.range_toList
      ([ds.priority1.value] ++ ds.quality.toWire.toList ++ [ds.priority2.value]) _
      (toBe 2 ds.stepsRemoved.value.toNat) (by simp [toWire]) (by simp) (by simp) _
  have hs : (ds.toWire.range 14 2 (by decide)).toList = toBe 2 ds.stepsRemoved.value.toNat :=
    Octets.range_toList ([ds.priority1.value] ++ ds.quality.toWire.toList ++
      [ds.priority2.value] ++ ds.identity.id.toList) _ [] (by simp [toWire]) (by simp) (by simp) _
  have hp : ds.toWire.get 5 = ds.priority2.value := rfl
  rw [fromWire, hid, hq, hs, hp, ClockQuality.fromWire_toWire _ h, ofBe_uint16]
  rfl

end ClockDS

/-- A data set with the topology it is compared under. -/
structure TopologyDS where
  ds : ClockDS
  topo : Topology
deriving DecidableEq

namespace TopologyDS

def ofLocal (ds : ClockDS) (localTopoId : PortIdentity) : TopologyDS :=
  ⟨ds, Topology.ofLocal localTopoId⟩

def foreign (ds : ClockDS) (sender receiver : PortIdentity) : TopologyDS := ⟨ds, ⟨sender, receiver⟩⟩

def isBetterOrBetterByTopology (a b : TopologyDS) : Checked Bool := do
  match ← a.ds.compare b.ds with
  | .better => pure true
  | .worse => pure false
  | .topologyTieBreak steps => pure (a.topo.compare steps b.topo).isBetterOrBetterByTopology

/-- Better by nothing but the topology tie-break. -/
def isBetterByTopology (a b : TopologyDS) : Checked Bool := do
  match ← a.ds.compare b.ds with
  | .better | .worse => pure false
  | .topologyTieBreak steps => pure (a.topo.compare steps b.topo).isBetterByTopology

theorem isBetterOrBetterByTopology_returns (a b : TopologyDS) :
    ∃ r, a.isBetterOrBetterByTopology b = .ok r := by
  obtain ⟨r, hr⟩ := a.ds.compare_returns b.ds
  rw [isBetterOrBetterByTopology, hr, Checked.ok_bind]
  cases r with
  | better => exact ⟨_, rfl⟩
  | worse => exact ⟨_, rfl⟩
  | topologyTieBreak steps => exact ⟨_, rfl⟩

theorem isBetterByTopology_returns (a b : TopologyDS) : ∃ r, a.isBetterByTopology b = .ok r := by
  obtain ⟨r, hr⟩ := a.ds.compare_returns b.ds
  rw [isBetterByTopology, hr, Checked.ok_bind]
  cases r with
  | better => exact ⟨_, rfl⟩
  | worse => exact ⟨_, rfl⟩
  | topologyTieBreak steps => exact ⟨_, rfl⟩

end TopologyDS

end Rptp
