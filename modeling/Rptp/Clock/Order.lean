import Rptp.Clock.Dataset

/-! # The order behind the comparison of foreign data sets

The comparison switches between the data set order, the steps removed and the topology. Where the
data sets of one grandmaster agree on its attributes and no clock hears itself, all of this is one
lexicographic order: the attributes and the identity of the grandmaster, the steps removed, the
sender, the number of the receiving port.
-/

namespace Rptp

open Machine Std

instance : TransOrd PortNumber := inferInstanceAs (TransCmp (compareOn PortNumber.value))

instance : LawfulEqOrd PortNumber where
  eq_of_compare {a b} h := by
    have hv : compare a.value b.value = .eq := h
    cases a
    cases b
    exact congrArg PortNumber.mk (LawfulEqCmp.eq_of_compare hv)

instance : TransOrd PortIdentity := inferInstanceAs (TransCmp (compareLex _ _))

instance : LawfulEqOrd PortIdentity where
  eq_of_compare {a b} h := by
    obtain ⟨hclock, hport⟩ := compareLex_eq_eq.mp h
    have hc : compare a.clockIdentity b.clockIdentity = .eq := hclock
    have hp : compare a.portNumber b.portNumber = .eq := hport
    cases a
    cases b
    congr
    · exact LawfulEqCmp.eq_of_compare hc
    · exact LawfulEqCmp.eq_of_compare hp

/-- Data sets of one grandmaster agree on everything but the distance to it. -/
def ClockDS.Agrees (a b : ClockDS) : Prop :=
  a.identity = b.identity →
    a.priority1 = b.priority1 ∧ a.quality = b.quality ∧ a.priority2 = b.priority2

instance (a b : ClockDS) : Decidable (a.Agrees b) := inferInstanceAs (Decidable (_ → _))

theorem StepsRemoved.compare_cases (a b : StepsRemoved) :
    (Ord.compare a.value b.value = .lt ∧
      (a.compare b = .better ∨ a.compare b = .topologyTieBreak .lt)) ∨
    (Ord.compare a.value b.value = .gt ∧
      (a.compare b = .worse ∨ a.compare b = .topologyTieBreak .gt)) ∨
    (Ord.compare a.value b.value = .eq ∧ a.compare b = .topologyTieBreak .eq) := by
  have hlt : a.value.toNat < 2 ^ 16 := a.value.toNat_lt
  have hlt' : b.value.toNat < 2 ^ 16 := b.value.toNat_lt
  have hcompare : Ord.compare a.value b.value = compareOfLessAndEq a.value b.value := rfl
  unfold compare saturating
  rw [hcompare]
  rcases Nat.lt_trichotomy a.value.toNat b.value.toNat with h | h | h
  · rw [compareOfLessAndEq, if_pos (UInt16.lt_iff_toNat_lt.mpr h)]
    left
    split_ifs with h1 h2
    · exact ⟨rfl, .inl rfl⟩
    · omega
    · exact ⟨rfl, .inr rfl⟩
  · rw [UInt16.toNat_inj.mp h, compareOfLessAndEq, if_neg (UInt16.lt_irrefl _), if_pos rfl]
    right
    right
    have hnot : ¬ min (b.value.toNat + 1) (2 ^ 16 - 1) < b.value.toNat := by omega
    rw [if_neg hnot, if_neg hnot]
    exact ⟨rfl, rfl⟩
  · have hnot : ¬ a.value < b.value := fun hab => by
      have hab' := UInt16.lt_iff_toNat_lt.mp hab
      omega
    have hne : a.value ≠ b.value := fun hab => by
      rw [hab] at h
      omega
    rw [compareOfLessAndEq, if_neg hnot, if_neg hne]
    right
    left
    split_ifs with h1 h2
    · omega
    · exact ⟨rfl, .inl rfl⟩
    · exact ⟨rfl, .inr rfl⟩

namespace TopologyDS

/-- The tie-break between data sets of one grandmaster. -/
def tieBreak : TopologyDS → TopologyDS → Ordering :=
  compareLex (compareOn fun t => t.ds.stepsRemoved.value)
    (compareLex (compareOn fun t => t.topo.sender) (compareOn fun t => t.topo.receiver.portNumber))

/-- The whole order. -/
def order : TopologyDS → TopologyDS → Ordering :=
  compareLex (fun a b => ClockDS.lexicographic a.ds b.ds) tieBreak

instance : TransCmp tieBreak := inferInstanceAs (TransCmp (compareLex _ _))

instance : TransCmp fun a b : TopologyDS => ClockDS.lexicographic a.ds b.ds where
  eq_swap {a b} := (OrientedCmp.eq_swap : ClockDS.lexicographic a.ds b.ds = _)
  isLE_trans {a _ c} hab hbc :=
    (TransCmp.isLE_trans hab hbc : (ClockDS.lexicographic a.ds c.ds).isLE)

instance : TransCmp order := inferInstanceAs (TransCmp (compareLex _ _))

theorem eq_of_order {a b : TopologyDS} (h : order a b = .eq) :
    a.ds.identity = b.ds.identity ∧ a.topo.sender = b.topo.sender ∧
      a.topo.receiver.portNumber = b.topo.receiver.portNumber := by
  simp only [order, tieBreak, compareLex_eq_eq] at h
  obtain ⟨hds, -, hsender, hport⟩ := h
  exact ⟨ClockDS.identity_eq_of_lexicographic hds, LawfulEqCmp.eq_of_compare hsender,
    LawfulEqCmp.eq_of_compare hport⟩

theorem lexicographic_of_agrees {a b : ClockDS} (h : a.Agrees b) (hid : a.identity = b.identity) :
    ClockDS.lexicographic a b = .eq := by
  obtain ⟨h1, hq, h2⟩ := h hid
  simp only [ClockDS.lexicographic, compareLex_eq_eq, compareOn, h1, hq, h2, hid]
  exact ⟨ReflCmp.compare_self, ReflCmp.compare_self, ReflCmp.compare_self, ReflCmp.compare_self⟩

theorem tieBreak_eq (a b : TopologyDS) :
    tieBreak a b = (compare a.ds.stepsRemoved.value b.ds.stepsRemoved.value).then
      ((compare a.topo.sender b.topo.sender).then
        (compare a.topo.receiver.portNumber b.topo.receiver.portNumber)) := rfl

/-- The tie-break between data sets of one grandmaster is by steps, sender and receiving port. A
data set that its own sender received is the only exception. -/
theorem isBetter_of_identity_eq {a b : TopologyDS} (hid : a.ds.identity = b.ds.identity)
    (hself : b.topo.sender ≠ b.topo.receiver) :
    a.isBetterOrBetterByTopology b = .ok (decide (tieBreak a b = .lt)) := by
  rw [isBetterOrBetterByTopology, ClockDS.compare, if_pos hid, Checked.pure_eq, Checked.ok_bind,
    tieBreak_eq]
  rcases StepsRemoved.compare_cases a.ds.stepsRemoved b.ds.stepsRemoved with
    ⟨hsteps, hc | hc⟩ | ⟨hsteps, hc | hc⟩ | ⟨hsteps, hc⟩
  · rw [hc, hsteps]
    rfl
  · rw [hc, hsteps]
    cases hr : compare b.topo.receiver b.topo.sender with
    | lt => simp [Topology.compare, hr, TopologyOrdering.isBetterOrBetterByTopology]
    | gt => simp [Topology.compare, hr, TopologyOrdering.isBetterOrBetterByTopology]
    | eq => exact absurd (LawfulEqCmp.eq_of_compare hr).symm hself
  · rw [hc, hsteps]
    rfl
  · rw [hc, hsteps]
    cases hr : compare a.topo.receiver a.topo.sender with
    | lt => simp [Topology.compare, hr, TopologyOrdering.isBetterOrBetterByTopology]
    | gt => simp [Topology.compare, hr, TopologyOrdering.isBetterOrBetterByTopology]
    | eq => simp [Topology.compare, hr, TopologyOrdering.isBetterOrBetterByTopology]
  · rw [hc, hsteps]
    cases hs : compare a.topo.sender b.topo.sender with
    | lt => simp [Topology.compare, hs, TopologyOrdering.isBetterOrBetterByTopology]
    | gt => simp [Topology.compare, hs, TopologyOrdering.isBetterOrBetterByTopology]
    | eq =>
      have hports : a.topo.receiver.compareByPortNumber b.topo.receiver =
          compare a.topo.receiver.portNumber b.topo.receiver.portNumber := rfl
      cases hp : compare a.topo.receiver.portNumber b.topo.receiver.portNumber with
      | lt => simp [Topology.compare, hs, hports, hp, TopologyOrdering.isBetterOrBetterByTopology]
      | gt => simp [Topology.compare, hs, hports, hp, TopologyOrdering.isBetterOrBetterByTopology]
      | eq => simp [Topology.compare, hs, hports, hp, TopologyOrdering.isBetterOrBetterByTopology]

/-- Where the data sets agree and none was received by its sender, better is less in the order. -/
theorem isBetter_eq_order {a b : TopologyDS} (hagrees : a.ds.Agrees b.ds)
    (hself : b.topo.sender ≠ b.topo.receiver) :
    a.isBetterOrBetterByTopology b = .ok (decide (order a b = .lt)) := by
  have horder : order a b = (ClockDS.lexicographic a.ds b.ds).then (tieBreak a b) := rfl
  by_cases hid : a.ds.identity = b.ds.identity
  · rw [isBetter_of_identity_eq hid hself, horder, lexicographic_of_agrees hagrees hid]
    rfl
  · rw [horder]
    rcases ClockDS.compare_of_identity_ne hid with ⟨hl, hc⟩ | ⟨hl, hc⟩
    · rw [isBetterOrBetterByTopology, hc, hl]
      rfl
    · rw [isBetterOrBetterByTopology, hc, hl]
      rfl

end TopologyDS

end Rptp
