import Rptp.Bmca.Algorithm

/-! # Agreement of ordinary clocks on one master

Data sets of different clocks are ordered by the lexicographic comparison alone, the same way seen
from either side. The least of them is found by every clock that holds records of the others.
-/

namespace Rptp

open Machine Std

theorem TopologyDS.isBetter_of_identity_ne {a b : TopologyDS}
    (h : a.ds.identity ≠ b.ds.identity) :
    a.isBetterOrBetterByTopology b = .ok (decide (ClockDS.lexicographic a.ds b.ds = .lt)) := by
  rw [isBetterOrBetterByTopology]
  rcases ClockDS.compare_of_identity_ne h with ⟨hl, hc⟩ | ⟨hl, hc⟩
  · rw [hc, hl]
    rfl
  · rw [hc, hl]
    rfl

theorem lexicographic_gt_of_lt {a b : ClockDS} (h : ClockDS.lexicographic a b = .lt) :
    ClockDS.lexicographic b a = .gt := OrientedCmp.gt_of_lt h

/-- The least data set of clocks with distinct identities is strictly better than the others. -/
theorem exists_best {clocks : Finset ClockDS} (hne : clocks.Nonempty)
    (hid : ∀ a ∈ clocks, ∀ b ∈ clocks, a.identity = b.identity → a = b) :
    ∃ m ∈ clocks, ∀ c ∈ clocks, c ≠ m → ClockDS.lexicographic m c = .lt := by
  obtain ⟨m, hm, hleast⟩ := exists_least ClockDS.lexicographic hne
  refine ⟨m, hm, ?_⟩
  intro c hc hcm
  have hle := hleast c hc
  cases hl : ClockDS.lexicographic m c with
  | lt => rfl
  | eq => exact absurd (hid m hm c hc (ClockDS.identity_eq_of_lexicographic hl)).symm hcm
  | gt => simp [hl] at hle

/-- The record that a clock keeps of another ordinary clock. -/
def recordOf (ds : ClockDS) : QualifiedForeignClockRecord := ⟨ds, ⟨ds.identity, ⟨1⟩⟩⟩

section Selection

variable {R : Type} [ForeignClockRecords R] {b : BestForeignRecord R} {others : Finset ClockDS}

/-- In any storage order the snapshot is of the best of the recorded clocks. -/
theorem snapshot_of_best (hrec : ∀ q, q ∈ b.qualified ↔ ∃ d ∈ others, q = recordOf d)
    (hid : ∀ a ∈ others, ∀ b ∈ others, a.identity = b.identity → a = b) {m : ClockDS}
    (hm : m ∈ others) (hbest : ∀ c ∈ others, c ≠ m → ClockDS.lexicographic m c = .lt) :
    b.snapshot = .ok (.qualified m ⟨m.identity, ⟨1⟩⟩ b.receiver) := by
  have hsel : selectBest (QualifiedForeignClockRecord.isBetterThan b.receiver) b.qualified =
      .ok (some (recordOf m)) := by
    apply selectBest_eq (BestForeignRecord.isBetterThan_returns b.receiver)
      ((hrec _).mpr ⟨m, hm, rfl⟩)
    intro x hx hxm
    obtain ⟨d, hd, rfl⟩ := (hrec x).mp hx
    have hdm : d ≠ m := fun h => hxm (by rw [h])
    have hlt := hbest d hd hdm
    have hne : m.identity ≠ d.identity := fun h => hdm (hid m hm d hd h).symm
    constructor
    · rw [QualifiedForeignClockRecord.isBetterThan, TopologyDS.isBetter_of_identity_ne hne]
      simp [recordOf, TopologyDS.foreign, hlt]
    · rw [QualifiedForeignClockRecord.isBetterThan, TopologyDS.isBetter_of_identity_ne hne.symm]
      simp [recordOf, TopologyDS.foreign, lexicographic_gt_of_lt hlt]
  rw [BestForeignRecord.snapshot, hsel]
  rfl

end Selection

theorem LocalDS.isBetter_of_identity_ne {d0 ds : ClockDS} (source receiver : PortIdentity)
    (h : d0.identity ≠ ds.identity) :
    LocalDS.isBetterOrBetterByTopology d0 (.qualified ds source receiver) =
      .ok (if ClockDS.lexicographic d0 ds = .lt then .ok d0
        else .error ⟨ds, source, receiver⟩) := by
  have hne : (LocalDS.topology d0).ds.identity ≠
      (TopologyDS.foreign ds source receiver).ds.identity := h
  rw [isBetterOrBetterByTopology, TopologyDS.isBetter_of_identity_ne hne, Checked.ok_bind]
  change (if decide (ClockDS.lexicographic d0 ds = .lt) = true then _ else _) = _
  by_cases hl : ClockDS.lexicographic d0 ds = .lt
  · simp [hl]
  · simp [hl]

/-- What an ordinary clock decides from the best of the other clocks. -/
theorem evaluate_ordinary {d0 ds : ClockDS} {receiver : PortIdentity}
    (h : d0.identity ≠ ds.identity) (hport : receiver.portNumber = ⟨1⟩) :
    let e : BestForeignSnapshot := .qualified ds ⟨ds.identity, ⟨1⟩⟩ receiver
    BestMasterClockAlgorithm.evaluate ⟨1⟩ d0 e e =
      .ok (if ClockDS.lexicographic d0 ds = .lt then
          .master ⟨if d0.isAuthoritative then .m1 else .m2, d0⟩
        else if d0.isAuthoritative then .passive else .slave ⟨⟨ds.identity, ⟨1⟩⟩⟩) := by
  intro e
  have hb := LocalDS.isBetter_of_identity_ne ⟨ds.identity, ⟨1⟩⟩ receiver h
  rw [BestMasterClockAlgorithm.evaluate, authoritativeDecision, nonAuthoritativeDecision, hb]
  by_cases hl : ClockDS.lexicographic d0 ds = .lt
  · cases hauth : d0.isAuthoritative with
    | true => simp [hl]
    | false => simp [hl]
  · cases hauth : d0.isAuthoritative with
    | true => simp [hl]
    | false =>
      simp [hl, receivedOnPortDecision, QualifiedForeignSnapshot.parentIfReceivedOnPort, hport]

/-- Clocks that hold records of each other decide for one and the same master, the best of them:
it takes its own data set, and every other clock follows it or, when authoritative, stays
passive. -/
theorem bmca_agreement {R : Type} [ForeignClockRecords R] (clocks : Finset ClockDS)
    (hcard : 2 ≤ clocks.card)
    (hid : ∀ a ∈ clocks, ∀ b ∈ clocks, a.identity = b.identity → a = b)
    (records : ClockDS → BestForeignRecord R)
    (hreceiver : ∀ c ∈ clocks, (records c).receiver = ⟨c.identity, ⟨1⟩⟩)
    (hrecords : ∀ c ∈ clocks, ∀ q,
      q ∈ (records c).qualified ↔ ∃ d ∈ clocks, d ≠ c ∧ q = recordOf d)
    (algorithm : ClockDS → BestMasterClockAlgorithm)
    (hport : ∀ c ∈ clocks, (algorithm c).portNumber = ⟨1⟩) :
    ∃ m ∈ clocks, (∀ c ∈ clocks, c ≠ m → ClockDS.lexicographic m c = .lt) ∧
      ∀ c ∈ clocks, ∃ e a decision, (records c).snapshot = .ok e ∧
        (algorithm c).decision c e e = .ok (a, decision) ∧
        decision =
          if c = m then .master ⟨if c.isAuthoritative then .m1 else .m2, c⟩
          else if c.isAuthoritative then .passive
          else .slave ⟨⟨m.identity, ⟨1⟩⟩⟩ := by
  have hne : clocks.Nonempty := Finset.card_pos.mp (by omega)
  obtain ⟨m, hm, hbest⟩ := exists_best hne hid
  refine ⟨m, hm, hbest, ?_⟩
  intro c hc
  -- The best of the other clocks: the second best for `m` itself, and `m` for everyone else.
  have hothers : (clocks.erase c).Nonempty := by
    apply Finset.card_pos.mp
    rw [Finset.card_erase_of_mem hc]
    omega
  have hrec : ∀ q, q ∈ (records c).qualified ↔ ∃ d ∈ clocks.erase c, q = recordOf d := by
    intro q
    rw [hrecords c hc q]
    simp only [Finset.mem_erase, and_assoc]
    constructor
    · rintro ⟨d, hd, hdc, hq⟩
      exact ⟨d, hdc, hd, hq⟩
    · rintro ⟨d, hdc, hd, hq⟩
      exact ⟨d, hd, hdc, hq⟩
  have hid' : ∀ a ∈ clocks.erase c, ∀ b ∈ clocks.erase c, a.identity = b.identity → a = b :=
    fun a ha b hb => hid a (Finset.mem_of_mem_erase ha) b (Finset.mem_of_mem_erase hb)
  obtain ⟨s, hs, hsbest⟩ := exists_best hothers hid'
  have hsc : s ≠ c := Finset.ne_of_mem_erase hs
  have hsm := Finset.mem_of_mem_erase hs
  have hsid : c.identity ≠ s.identity := fun h => hsc (hid c hc s hsm h).symm
  have hsnap := snapshot_of_best hrec hid' hs hsbest
  have hrport : (records c).receiver.portNumber = ⟨1⟩ := by rw [hreceiver c hc]
  have heval := evaluate_ordinary hsid hrport
  refine ⟨_, _, _, hsnap, by simp only [BestMasterClockAlgorithm.decision, hport c hc, heval]; rfl,
    ?_⟩
  by_cases hcm : c = m
  · subst hcm
    rw [if_pos (hbest s hsm hsc), if_pos rfl]
  · have hms : s = m := by
      by_contra hne'
      have h1 := hsbest m (Finset.mem_erase.mpr ⟨fun h => hcm h.symm, hm⟩) fun h => hne' h.symm
      have h2 := hbest s hsm hne'
      rw [lexicographic_gt_of_lt h2] at h1
      cases h1
    subst hms
    have hgt := lexicographic_gt_of_lt (hbest c hc hcm)
    rw [hgt, if_neg hcm]
    rfl

/-- A clock of default quality that is told apart by its identity. -/
def defaultClock (n : UInt8) : ClockDS :=
  ⟨⟨Octets.ofList [n, 0, 0, 0, 0, 0, 0, 0] rfl⟩, ⟨128⟩, ⟨128⟩, ⟨.default, .unknown, 0⟩, ⟨0⟩⟩

/-- The store of a clock that heard another clock twice, one second apart. -/
def heardTwice (self other : ClockDS) : BestForeignRecord ForeignClockRecordsVec :=
  ⟨⟨self.identity, ⟨1⟩⟩, ⟨[⟨⟨other.identity, ⟨1⟩⟩, other,
    ⟨Instant.fromSecs 1, some (Instant.fromSecs 0), Duration.fromSecs 4⟩⟩]⟩⟩

theorem heardTwice_qualified (self other : ClockDS) :
    (heardTwice self other).qualified = [recordOf other] := by
  have h : (⟨Instant.fromSecs 1, some (Instant.fromSecs 0), Duration.fromSecs 4⟩ :
      SlidingWindowQualification).isQualified = true := by decide
  simp [heardTwice, BestForeignRecord.qualified, ForeignClockRecords.iter, recordOf,
    ForeignClockRecord.qualified, ForeignClockRecord.isQualified, h]

/-- Two clocks that heard each other. -/
theorem bmca_agreement_pair :
    ∃ m ∈ ({defaultClock 1, defaultClock 2} : Finset ClockDS),
      ∀ c ∈ ({defaultClock 1, defaultClock 2} : Finset ClockDS), ∃ e a decision,
        (heardTwice c (if c = defaultClock 1 then defaultClock 2 else defaultClock 1)).snapshot =
          .ok e ∧
        (⟨c, ⟨1⟩⟩ : BestMasterClockAlgorithm).decision c e e = .ok (a, decision) ∧
        decision = if c = m then .master ⟨.m2, c⟩ else .slave ⟨⟨m.identity, ⟨1⟩⟩⟩ := by
  have hne : defaultClock 1 ≠ defaultClock 2 := by decide
  obtain ⟨m, hm, -, h⟩ := bmca_agreement {defaultClock 1, defaultClock 2}
    (by rw [Finset.card_pair hne]) (by decide)
    (fun c => heardTwice c (if c = defaultClock 1 then defaultClock 2 else defaultClock 1))
    (fun _ _ => rfl)
    (by
      intro c hc q
      rw [heardTwice_qualified]
      rcases Finset.mem_insert.mp hc with rfl | hc
      · simp [hne.symm]
      · rw [Finset.mem_singleton.mp hc]
        simp [hne, hne.symm])
    (fun c => ⟨c, ⟨1⟩⟩) (fun _ _ => rfl)
  refine ⟨m, hm, ?_⟩
  intro c hc
  obtain ⟨e, a, decision, hs, hd, heq⟩ := h c hc
  refine ⟨e, a, decision, hs, hd, ?_⟩
  have hc' : c.isAuthoritative = false := by
    rcases Finset.mem_insert.mp hc with rfl | hc
    · rfl
    · rw [Finset.mem_singleton.mp hc]
      rfl
  simpa [hc'] using heq

end Rptp
