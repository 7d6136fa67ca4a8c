import Rptp.Clock.Order
import Rptp.Foreign.History

/-! # The best foreign record does not depend on the order of arrival

Announce messages of different sources that are received at the same instant can be considered in
any order: the store ends up with the same records in another order. The scan for the best record
then finds the same one if the comparison orders the qualified records, which needs that they agree
on each grandmaster and that none is from the port itself.
-/

namespace Rptp

open Machine

/-- Histories that differ in the order of Announce messages of different sources received at the
same instant. -/
inductive Reordered : List Announced → List Announced → Prop
  | nil : Reordered [] []
  | cons (a : Announced) {l l' : List Announced} (h : Reordered l l') : Reordered (a :: l) (a :: l')
  | swap {a b : Announced} (l : List Announced) (hnow : a.now = b.now) (hsource : a.source ≠ b.source) :
      Reordered (a :: b :: l) (b :: a :: l)
  | trans {l l' l'' : List Announced} (h : Reordered l l') (h' : Reordered l' l'') : Reordered l l''

theorem Announced.advanced_fresh (a : Announced) (old : Option ForeignClockRecord) :
    ((old.map (·.advance a.record)).getD a.record).isStale a.now = false := by
  have hlast : ((old.map (·.advance a.record)).getD a.record).qualification.last = a.now := by
    cases old <;> rfl
  rw [isStale_eq (by rw [hlast]), hlast]
  simp

theorem Announced.observed_comm {a b : Announced} (hnow : a.now = b.now)
    (hsource : a.source ≠ b.source) (source : PortIdentity) (old : Option ForeignClockRecord) :
    b.observed source (a.observed source old) = a.observed source (b.observed source old) := by
  have hfresh : ∀ (c : Announced), c.now = b.now →
      (some (((old.filter fun r => !r.isStale b.now).map (·.advance c.record)).getD c.record)).filter
        (fun r => !r.isStale b.now) =
      some (((old.filter fun r => !r.isStale b.now).map (·.advance c.record)).getD c.record) := by
    intro c hc
    have hstale := c.advanced_fresh (old.filter fun r => !r.isStale b.now)
    rw [hc] at hstale
    simp [hstale]
  unfold observed
  rw [hnow]
  by_cases ha : a.source = source
  · have hb : b.source ≠ source := fun hb => hsource (ha.trans hb.symm)
    simp only [if_pos ha, if_neg hb, hfresh a hnow]
    simp
  · by_cases hb : b.source = source
    · simp only [if_neg ha, if_pos hb, hfresh b rfl]
      simp
    · simp only [if_neg ha, if_neg hb]

namespace BestForeignRecord

/-- The same records, in whatever order. -/
structure Same (b b' : BestForeignRecord ForeignClockRecordsVec) : Prop where
  receiver : b.receiver = b'.receiver
  unique : b.foreignClockRecords.Unique
  unique' : b'.foreignClockRecords.Unique
  find : ∀ source, b.foreignClockRecords.find source = b'.foreignClockRecords.find source

variable {b b' : BestForeignRecord ForeignClockRecordsVec}

theorem Same.refl (hu : b.foreignClockRecords.Unique) : b.Same b := ⟨rfl, hu, hu, fun _ => rfl⟩

theorem considerAll_cons (b : BestForeignRecord ForeignClockRecordsVec) (a : Announced)
    (l : List Announced) :
    b.considerAll (a :: l) = b.consider a.source a.ds a.interval a.now >>= (·.considerAll l) :=
  List.foldlM_cons

theorem considerAll_receiver {l : List Announced} (h : b.considerAll l = .ok b') :
    b'.receiver = b.receiver := by
  refine Checked.foldlM_preserves (P := fun c => c.receiver = b.receiver) ?_ rfl h
  intro c a c' hc hconsider
  exact (consider_receiver hconsider).trans hc

theorem Same.consider (h : b.Same b') (a : Announced) :
    ∃ c c', b.consider a.source a.ds a.interval a.now = .ok c ∧
      b'.consider a.source a.ds a.interval a.now = .ok c' ∧ c.Same c' := by
  obtain ⟨c, hc, hreceiver, hunique, hfind⟩ := consider_spec h.unique a
  obtain ⟨c', hc', hreceiver', hunique', hfind'⟩ := consider_spec h.unique' a
  refine ⟨c, c', hc, hc', hreceiver.trans (h.receiver.trans hreceiver'.symm), hunique, hunique',
    fun source => ?_⟩
  rw [hfind, hfind', h.find]

theorem Same.considerAll (h : b.Same b') (l : List Announced) :
    ∃ c c', b.considerAll l = .ok c ∧ b'.considerAll l = .ok c' ∧ c.Same c' := by
  induction l generalizing b b' with
  | nil => exact ⟨b, b', rfl, rfl, h⟩
  | cons a l ih =>
    obtain ⟨c, c', hc, hc', hsame⟩ := h.consider a
    rw [considerAll_cons, considerAll_cons, hc, hc']
    exact ih hsame

theorem Same.swap (h : b.Same b') {x y : Announced} (hnow : x.now = y.now)
    (hsource : x.source ≠ y.source) :
    ∃ c c', b.considerAll [x, y] = .ok c ∧ b'.considerAll [y, x] = .ok c' ∧ c.Same c' := by
  obtain ⟨c₁, hc₁, hreceiver₁, hunique₁, hfind₁⟩ := consider_spec h.unique x
  obtain ⟨c, hc, hreceiver, hunique, hfind⟩ := consider_spec hunique₁ y
  obtain ⟨c₁', hc₁', hreceiver₁', hunique₁', hfind₁'⟩ := consider_spec h.unique' y
  obtain ⟨c', hc', hreceiver', hunique', hfind'⟩ := consider_spec hunique₁' x
  refine ⟨c, c', ?_, ?_, ?_, hunique, hunique', fun source => ?_⟩
  · rw [considerAll_cons, hc₁, Checked.ok_bind, considerAll_cons, hc]
    rfl
  · rw [considerAll_cons, hc₁', Checked.ok_bind, considerAll_cons, hc']
    rfl
  · rw [hreceiver, hreceiver₁, h.receiver, hreceiver', hreceiver₁']
  · rw [hfind, hfind₁, hfind', hfind₁', h.find]
    exact Announced.observed_comm hnow hsource source _

theorem considerAll_append (b : BestForeignRecord ForeignClockRecordsVec) (l l' : List Announced) :
    b.considerAll (l ++ l') = b.considerAll l >>= (·.considerAll l') :=
  List.foldlM_append

/-- Reordered histories lead to the same records. -/
theorem considerAll_reordered {l l' : List Announced} (hl : Reordered l l') (h : b.Same b') :
    ∃ c c', b.considerAll l = .ok c ∧ b'.considerAll l' = .ok c' ∧ c.Same c' := by
  induction hl generalizing b b' with
  | nil => exact ⟨b, b', rfl, rfl, h⟩
  | cons a hl ih =>
    obtain ⟨c, c', hc, hc', hsame⟩ := h.consider a
    rw [considerAll_cons, considerAll_cons, hc, hc']
    exact ih hsame
  | @swap x y l hnow hsource =>
    obtain ⟨c, c', hc, hc', hsame⟩ := h.swap hnow hsource
    change ∃ d d', b.considerAll ([x, y] ++ l) = .ok d ∧ b'.considerAll ([y, x] ++ l) = .ok d' ∧ _
    rw [considerAll_append, considerAll_append, hc, hc']
    exact hsame.considerAll l
  | trans hl hl' ih ih' =>
    obtain ⟨c, c₁, hc, hc₁, hsame⟩ := ih (Same.refl h.unique)
    obtain ⟨c₂, c', hc₂, hc', hsame'⟩ := ih' h
    obtain rfl : c₁ = c₂ := Except.ok.inj (hc₁.symm.trans hc₂)
    exact ⟨c, c', hc, hc', hsame.receiver.trans hsame'.receiver, hsame.unique, hsame'.unique',
      fun source => (hsame.find source).trans (hsame'.find source)⟩

theorem Same.qualified (h : b.Same b') : b.qualified.Perm b'.qualified :=
  (Keyed.perm_of_lookup h.unique h.unique' h.find).filterMap _

/-- The qualified records agree on each grandmaster, and none is from the port itself. -/
def Consistent {R : Type} [ForeignClockRecords R] (b : BestForeignRecord R) : Prop :=
  ∀ p ∈ b.qualified, p.sourcePortIdentity ≠ b.receiver ∧
    ∀ q ∈ b.qualified, p.dataset.Agrees q.dataset

/-- The order of the records of a port. -/
def recordOrder (receiver : PortIdentity) (p q : QualifiedForeignClockRecord) : Ordering :=
  TopologyDS.order (.foreign p.dataset p.sourcePortIdentity receiver)
    (.foreign q.dataset q.sourcePortIdentity receiver)

instance (receiver : PortIdentity) : Std.TransCmp (recordOrder receiver) where
  eq_swap {p _} := (Std.OrientedCmp.eq_swap : TopologyDS.order
    (.foreign p.dataset p.sourcePortIdentity receiver) _ = _)
  isLE_trans {p _ q} hpr hrq := (Std.TransCmp.isLE_trans hpr hrq : (TopologyDS.order
    (.foreign p.dataset p.sourcePortIdentity receiver)
    (.foreign q.dataset q.sourcePortIdentity receiver)).isLE)

theorem Consistent.isBetterThan_eq {R : Type} [ForeignClockRecords R] {b : BestForeignRecord R}
    (h : b.Consistent) {p q : QualifiedForeignClockRecord} (hp : p ∈ b.qualified)
    (hq : q ∈ b.qualified) :
    p.isBetterThan b.receiver q = .ok (decide (recordOrder b.receiver p q = .lt)) :=
  TopologyDS.isBetter_eq_order ((h p hp).2 q hq) (h q hq).1

theorem qualified_unique (hu : b.foreignClockRecords.Unique) {p q : QualifiedForeignClockRecord}
    (hp : p ∈ b.qualified) (hq : q ∈ b.qualified)
    (h : recordOrder b.receiver p q = .eq) : p = q := by
  obtain ⟨r, hr, -, rfl⟩ := mem_qualified.mp hp
  obtain ⟨t, ht, -, rfl⟩ := mem_qualified.mp hq
  have hsource : r.sourcePortIdentity = t.sourcePortIdentity := (TopologyDS.eq_of_order h).2.1
  obtain rfl : r = t := hu.eq_of_key hr ht hsource
  rfl

/-- The snapshot of consistent records names one that beats all others. -/
theorem Consistent.snapshot_best (h : b.Consistent) (hu : b.foreignClockRecords.Unique)
    {ds : ClockDS} {source port : PortIdentity} (hsnap : b.snapshot = .ok (.qualified ds source port)) :
    ∀ q ∈ b.qualified, q.isBetterThan b.receiver ⟨ds, source⟩ = .ok false := by
  obtain hnil | hl := eq_or_ne b.qualified []
  · intro q hq
    rw [hnil] at hq
    cases hq
  · obtain ⟨m, hm, hsel, hleast⟩ := selectBest_least (isBetterThan_returns b.receiver) hl
      (fun p hp q hq => h.isBetterThan_eq hp hq) (fun p hp q hq => qualified_unique hu hp hq)
    rw [snapshot, hsel] at hsnap
    cases hsnap
    intro q hq
    change q.isBetterThan b.receiver m = .ok false
    by_cases hqm : q = m
    · have hself : recordOrder b.receiver m m = .eq := Std.ReflCmp.compare_self
      rw [hqm, h.isBetterThan_eq hm hm, hself]
      rfl
    · exact (beats_of_least hm hleast (fun p hp q hq => h.isBetterThan_eq hp hq) q hq hqm).2

theorem Same.snapshot (hsame : b.Same b') (h : b.Consistent) : b.snapshot = b'.snapshot := by
  rw [BestForeignRecord.snapshot, BestForeignRecord.snapshot, ← hsame.receiver,
    selectBest_perm (isBetterThan_returns b.receiver) hsame.qualified
      (fun p hp q hq => h.isBetterThan_eq hp hq)
      (fun p hp q hq => qualified_unique hsame.unique hp hq)]

end BestForeignRecord

/-- Histories that differ in the order of Announce messages received at the same instant lead to the
same snapshot, and no qualified record is better than the one it names, if the qualified records
agree on each grandmaster and none is from the port itself. -/
theorem snapshot_reordered (receiver : PortIdentity) (history history' : List Announced)
    (h : Reordered history history') :
    ∃ b b', BestForeignRecord.considerAll ⟨receiver, ForeignClockRecordsVec.new⟩ history = .ok b ∧
      BestForeignRecord.considerAll ⟨receiver, ForeignClockRecordsVec.new⟩ history' = .ok b' ∧
      (b.Consistent → b.snapshot = b'.snapshot ∧
        ∀ ds source port, b.snapshot = .ok (.qualified ds source port) →
          ∀ q ∈ b.qualified, q.isBetterThan receiver ⟨ds, source⟩ = .ok false) := by
  obtain ⟨b, b', hb, hb', hsame⟩ := BestForeignRecord.considerAll_reordered h
    (BestForeignRecord.Same.refl (b := ⟨receiver, .new⟩) ForeignClockRecordsVec.unique_new)
  have hreceiver : b.receiver = receiver := BestForeignRecord.considerAll_receiver hb
  refine ⟨b, b', hb, hb', fun hconsistent => ⟨hsame.snapshot hconsistent, ?_⟩⟩
  intro ds source port hsnap
  rw [← hreceiver]
  exact hconsistent.snapshot_best hsame.unique hsnap

/-- A clock announces a grandmaster, with an interval of one second. -/
def announcedBy (source identity priority1 : UInt8) (stepsRemoved : UInt16) (secs : UInt32) :
    Announced :=
  ⟨sourceOf source, announcedDs identity priority1 stepsRemoved, oneSecond, .fromSecs secs⟩

/-- Two clocks announce the first one, which are five steps and one step away from it. -/
def consistentHistory : List Announced :=
  [announcedBy 11 1 128 5 0, announcedBy 12 1 128 1 0, announcedBy 11 1 128 5 1,
    announcedBy 12 1 128 1 1]

theorem consistentHistory_reordered : Reordered consistentHistory
    [announcedBy 12 1 128 1 0, announcedBy 11 1 128 5 0, announcedBy 11 1 128 5 1,
      announcedBy 12 1 128 1 1] :=
  .swap _ rfl (by decide)

/-- The nearer clock is the best in either order. -/
theorem snapshot_reordered_nearer :
    ∃ b b', BestForeignRecord.considerAll ⟨sourceOf 2, ForeignClockRecordsVec.new⟩
        consistentHistory = .ok b ∧
      BestForeignRecord.considerAll ⟨sourceOf 2, ForeignClockRecordsVec.new⟩
        [announcedBy 12 1 128 1 0, announcedBy 11 1 128 5 0, announcedBy 11 1 128 5 1,
          announcedBy 12 1 128 1 1] = .ok b' ∧
      b'.snapshot = .ok (.qualified (announcedDs 1 128 1) (sourceOf 12) (sourceOf 2)) := by
  obtain ⟨b, b', hb, hb', hconsistent⟩ :=
    snapshot_reordered (sourceOf 2) _ _ consistentHistory_reordered
  have hrun : ∃ c, BestForeignRecord.considerAll ⟨sourceOf 2, ForeignClockRecordsVec.new⟩
      consistentHistory = .ok c ∧ c.Consistent ∧
      c.snapshot = .ok (.qualified (announcedDs 1 128 1) (sourceOf 12) (sourceOf 2)) := by
    refine ⟨_, rfl, ?_, by decide +kernel⟩
    unfold BestForeignRecord.Consistent
    decide +kernel
  obtain ⟨c, hc, hcons, hsnap⟩ := hrun
  obtain rfl : b = c := Except.ok.inj (hb.symm.trans hc)
  exact ⟨b, b', hb, hb', (hconsistent hcons).1.symm.trans hsnap⟩

/-- Two clocks announce the first one with different priorities, and the third one stands between. -/
def cyclicTail : List Announced :=
  [announcedBy 11 1 100 5 1, announcedBy 3 3 150 0 1, announcedBy 12 1 200 1 1]

/-- With records that disagree on a grandmaster the comparison has a cycle, and with a record of the
port itself it has a tie. The snapshot then depends on the order. -/
theorem snapshot_depends_on_order :
    (∃ l l' b b', Reordered l l' ∧
      BestForeignRecord.considerAll ⟨sourceOf 2, ForeignClockRecordsVec.new⟩ l = .ok b ∧
      BestForeignRecord.considerAll ⟨sourceOf 2, ForeignClockRecordsVec.new⟩ l' = .ok b' ∧
      b.snapshot = .ok (.qualified (announcedDs 1 200 1) (sourceOf 12) (sourceOf 2)) ∧
      b'.snapshot = .ok (.qualified (announcedDs 1 100 5) (sourceOf 11) (sourceOf 2)) ∧
      ∃ q ∈ b.qualified, q.isBetterThan (sourceOf 2) ⟨announcedDs 1 200 1, sourceOf 12⟩ = .ok true) ∧
    ∃ l l' b b', Reordered l l' ∧
      BestForeignRecord.considerAll ⟨sourceOf 2, ForeignClockRecordsVec.new⟩ l = .ok b ∧
      BestForeignRecord.considerAll ⟨sourceOf 2, ForeignClockRecordsVec.new⟩ l' = .ok b' ∧
      b.snapshot = .ok (.qualified (announcedDs 1 128 1) (sourceOf 11) (sourceOf 2)) ∧
      b'.snapshot = .ok (.qualified (announcedDs 1 128 2) (sourceOf 2) (sourceOf 2)) := by
  constructor
  · refine ⟨announcedBy 11 1 100 5 0 :: announcedBy 3 3 150 0 0 :: announcedBy 12 1 200 1 0 ::
      cyclicTail, announcedBy 12 1 200 1 0 :: announcedBy 3 3 150 0 0 :: announcedBy 11 1 100 5 0 ::
      cyclicTail, _, _, ?_, rfl, rfl, by decide +kernel, by decide +kernel,
      ⟨announcedDs 3 150 0, sourceOf 3⟩, by decide +kernel, by decide +kernel⟩
    refine .trans (.swap _ rfl (by decide)) ?_
    refine .trans (.cons _ (.swap _ rfl (by decide))) ?_
    exact .swap _ rfl (by decide)
  · exact ⟨[announcedBy 11 1 128 1 0, announcedBy 2 1 128 2 0, announcedBy 11 1 128 1 1,
      announcedBy 2 1 128 2 1], _, _, _, .swap _ rfl (by decide), rfl, rfl, by decide +kernel,
      by decide +kernel⟩

end Rptp
