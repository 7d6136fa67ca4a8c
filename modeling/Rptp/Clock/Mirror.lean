import Rptp.Clock.Order

/-! # The mirror law of the comparison of data sets

Two clocks compare the same pair of data sets from opposite sides. Each of the three comparisons
turns into its mirror image when its arguments are swapped, at any steps removed and for any
sender and receiver, so the two clocks never both find their own side better.
-/

namespace Rptp

open Machine Std

/-- The result seen from the other side. -/
def TopologyOrdering.mirror : TopologyOrdering → TopologyOrdering
  | better => worse
  | worse => better
  | betterByTopology => worseByTopology
  | worseByTopology => betterByTopology
  | error1 => error1
  | error2 => error2

theorem TopologyOrdering.mirror_isBetter (o : TopologyOrdering) :
    ¬ (o.isBetterOrBetterByTopology = true ∧ o.mirror.isBetterOrBetterByTopology = true) := by
  cases o <;> simp [mirror, isBetterOrBetterByTopology]

/-- The result seen from the other side. -/
def ClockDSComparisonResult.mirror : ClockDSComparisonResult → ClockDSComparisonResult
  | better => worse
  | worse => better
  | topologyTieBreak stepsRemovedOrdering => topologyTieBreak stepsRemovedOrdering.swap

/-- The two saturating tests exclude each other, and what is left is a comparison of numbers. -/
theorem StepsRemoved.compare_mirror (a b : StepsRemoved) :
    b.compare a = (a.compare b).mirror := by
  have hswap : Ord.compare b.value a.value = (Ord.compare a.value b.value).swap :=
    OrientedCmp.eq_swap
  have ha : a.value.toNat < 2 ^ 16 := a.value.toNat_lt
  have hb : b.value.toNat < 2 ^ 16 := b.value.toNat_lt
  unfold compare saturating
  split_ifs with h1 h2
  · omega
  · rfl
  · rfl
  · rw [hswap]
    rfl

/-- Each branch of the tie-break looks at the receiver and sender of the side with more steps,
whichever argument that is. -/
theorem Topology.compare_mirror (a b : Topology) (stepsRemovedOrdering : Ordering) :
    b.compare stepsRemovedOrdering.swap a = (a.compare stepsRemovedOrdering b).mirror := by
  have hsender : Ord.compare b.sender a.sender = (Ord.compare a.sender b.sender).swap :=
    OrientedCmp.eq_swap
  have hport : b.receiver.compareByPortNumber a.receiver =
      (a.receiver.compareByPortNumber b.receiver).swap :=
    (OrientedCmp.eq_swap : Ord.compare b.receiver.portNumber a.receiver.portNumber = _)
  cases stepsRemovedOrdering with
  | lt =>
    simp only [compare, Ordering.swap]
    cases Ord.compare b.receiver b.sender <;> rfl
  | gt =>
    simp only [compare, Ordering.swap]
    cases Ord.compare a.receiver a.sender <;> rfl
  | eq =>
    simp only [compare, Ordering.swap, hsender, hport]
    cases Ord.compare a.sender b.sender with
    | lt => rfl
    | gt => rfl
    | eq => cases a.receiver.compareByPortNumber b.receiver <;> rfl

/-- Data sets of different clocks never tie, so the mirrored comparison returns as well. -/
theorem ClockDS.compare_mirror {a b : ClockDS} {r : ClockDSComparisonResult}
    (h : a.compare b = .ok r) : b.compare a = .ok r.mirror := by
  by_cases hid : a.identity = b.identity
  · rw [compare, if_pos hid] at h
    rw [compare, if_pos hid.symm, StepsRemoved.compare_mirror]
    cases h
    rfl
  · have hswap : lexicographic b a = (lexicographic a b).swap := OrientedCmp.eq_swap
    rcases compare_of_identity_ne hid with ⟨hl, hc⟩ | ⟨hl, hc⟩
    · rw [hc] at h
      cases h
      rw [compare, if_neg (Ne.symm hid), hswap, hl]
      rfl
    · rw [hc] at h
      cases h
      rw [compare, if_neg (Ne.symm hid), hswap, hl]
      rfl

namespace TopologyDS

/-- The whole comparison: by data set, and by topology where that ties. -/
def outcome (a b : TopologyDS) : Checked TopologyOrdering := do
  match ← a.ds.compare b.ds with
  | .better => pure .better
  | .worse => pure .worse
  | .topologyTieBreak steps => pure (a.topo.compare steps b.topo)

theorem isBetterOrBetterByTopology_eq (a b : TopologyDS) :
    a.isBetterOrBetterByTopology b =
      TopologyOrdering.isBetterOrBetterByTopology <$> a.outcome b := by
  obtain ⟨r, hr⟩ := a.ds.compare_returns b.ds
  rw [isBetterOrBetterByTopology, outcome, hr, Checked.ok_bind, Checked.ok_bind]
  cases r <;> rfl

theorem isBetterByTopology_eq (a b : TopologyDS) :
    a.isBetterByTopology b = TopologyOrdering.isBetterByTopology <$> a.outcome b := by
  obtain ⟨r, hr⟩ := a.ds.compare_returns b.ds
  rw [isBetterByTopology, outcome, hr, Checked.ok_bind, Checked.ok_bind]
  cases r <;> rfl

theorem outcome_mirror (a b : TopologyDS) :
    ∃ o, a.outcome b = .ok o ∧ b.outcome a = .ok o.mirror := by
  obtain ⟨r, hr⟩ := a.ds.compare_returns b.ds
  have hmirror := ClockDS.compare_mirror hr
  rw [outcome, outcome, hr, hmirror, Checked.ok_bind, Checked.ok_bind]
  cases r with
  | better => exact ⟨.better, rfl, rfl⟩
  | worse => exact ⟨.worse, rfl, rfl⟩
  | topologyTieBreak steps =>
    refine ⟨a.topo.compare steps b.topo, rfl, ?_⟩
    simp only [ClockDSComparisonResult.mirror, Topology.compare_mirror]
    rfl

/-- Swapping the arguments mirrors the outcome of the comparison and its two observations, no two
data sets are better than each other, and the comparison of data sets never reaches its
unreachable branch. -/
theorem comparison_mirror (a b : TopologyDS) :
    (∃ o, a.outcome b = .ok o ∧ b.outcome a = .ok o.mirror ∧
      a.isBetterOrBetterByTopology b = .ok o.isBetterOrBetterByTopology ∧
      a.isBetterByTopology b = .ok o.isBetterByTopology) ∧
    ¬ (a.isBetterOrBetterByTopology b = .ok true ∧ b.isBetterOrBetterByTopology a = .ok true) ∧
    ∃ r, a.ds.compare b.ds = .ok r ∧ b.ds.compare a.ds = .ok r.mirror := by
  obtain ⟨o, hab, hba⟩ := outcome_mirror a b
  obtain ⟨r, hr⟩ := a.ds.compare_returns b.ds
  have hbetter : a.isBetterOrBetterByTopology b = .ok o.isBetterOrBetterByTopology := by
    rw [isBetterOrBetterByTopology_eq, hab, Checked.map_ok]
  have hbetter' : b.isBetterOrBetterByTopology a = .ok o.mirror.isBetterOrBetterByTopology := by
    rw [isBetterOrBetterByTopology_eq, hba, Checked.map_ok]
  have htopology : a.isBetterByTopology b = .ok o.isBetterByTopology := by
    rw [isBetterByTopology_eq, hab, Checked.map_ok]
  refine ⟨⟨o, hab, hba, hbetter, htopology⟩, ?_, r, hr, ClockDS.compare_mirror hr⟩
  rintro ⟨h, h'⟩
  rw [hbetter] at h
  rw [hbetter'] at h'
  exact o.mirror_isBetter ⟨Except.ok.inj h, Except.ok.inj h'⟩

end TopologyDS

end Rptp
