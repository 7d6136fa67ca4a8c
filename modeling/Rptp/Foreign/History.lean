import Rptp.Foreign.Store
import Rptp.Machine.Keyed

/-! # The growing store against the history of Announce messages

A run of `consider` is a list of Announce messages with their times of receipt. The store then holds
at most one record for each source, and which one is a function of the latest two Announce messages
of that source and of the time.
-/

namespace Rptp

open Machine

/-- An Announce as it is considered. -/
structure Announced where
  source : PortIdentity
  ds : ClockDS
  interval : LogInterval
  now : Instant
deriving DecidableEq

namespace Announced

/-- Four announce intervals, in nanoseconds. -/
def window (a : Announced) : ℕ := 4 * a.interval.duration.nanos

/-- The record of a source that is heard for the first time. -/
def record (a : Announced) : ForeignClockRecord := .new a.source a.ds a.interval a.now

end Announced

theorem LogInterval.duration_le (i : LogInterval) : i.duration.nanos ≤ 2 ^ 20 * 1000000000 := by
  have hrange := i.range
  have hsaturating : ∀ n, (Duration.fromNanos n).nanos ≤ n := fun n => min_le_left _ _
  unfold duration
  dsimp only
  split_ifs with he
  · refine (hsaturating _).trans (Nat.mul_le_mul_right _ (Nat.pow_le_pow_right (by norm_num) ?_))
    omega
  · exact (hsaturating _).trans ((Nat.div_le_self _ _).trans (by norm_num))

theorem foreignMasterTimeWindow_nanos (a : Announced) :
    (foreignMasterTimeWindow a.interval).nanos = a.window := by
  have hle := a.interval.duration_le
  change saturating 64 (a.interval.duration.nanos * 4) = 4 * a.interval.duration.nanos
  unfold saturating
  omega

namespace ForeignClockRecord

/-- The record with a newer observation of the same source. -/
def advance (r record : ForeignClockRecord) : ForeignClockRecord :=
  { r with
    foreignClockDs := record.foreignClockDs
    qualification := r.qualification.qualify record.qualification.last record.qualification.window }

theorem updateFrom_eq {r record : ForeignClockRecord}
    (h : r.sourcePortIdentity = record.sourcePortIdentity) :
    ∃ status, r.updateFrom record = .ok (r.advance record, status) := by
  rw [updateFrom, Checked.assert_of (by simpa using h), Checked.ok_bind]
  dsimp only
  split_ifs
  · exact ⟨_, rfl⟩
  · exact ⟨_, rfl⟩

end ForeignClockRecord

theorem updateExisting_spec (records : List ForeignClockRecord) (record : ForeignClockRecord) :
    (Keyed.lookup ForeignClockRecord.sourcePortIdentity record.sourcePortIdentity records = none ∧
      updateExisting records record = .ok none) ∨
    ∃ existing i, records[i]? = some existing ∧
      existing.sourcePortIdentity = record.sourcePortIdentity ∧
      updateExisting records record = .ok (some (i, existing.advance record)) := by
  unfold updateExisting
  cases h : records.zipIdx.find? fun e => e.1.sameSourceAs record.sourcePortIdentity with
  | none =>
    left
    refine ⟨Keyed.lookup_eq_none.mpr fun r hr hsame => ?_, rfl⟩
    obtain ⟨i, hi⟩ := List.mem_iff_getElem?.mp hr
    have hentry : (r, i) ∈ records.zipIdx := List.mem_zipIdx_iff_getElem?.mpr hi
    have hnone := List.find?_eq_none.mp h (r, i) hentry
    simp [ForeignClockRecord.sameSourceAs, hsame] at hnone
  | some entry =>
    obtain ⟨existing, i⟩ := entry
    right
    have hi := List.mem_zipIdx_iff_getElem?.mp (List.mem_of_find?_eq_some h)
    have hsame : existing.sourcePortIdentity = record.sourcePortIdentity := by
      have hfound := List.find?_some h
      simpa [ForeignClockRecord.sameSourceAs] using hfound
    obtain ⟨status, hupdate⟩ := ForeignClockRecord.updateFrom_eq hsame
    exact ⟨existing, i, hi, hsame, by simp [hupdate]⟩

namespace ForeignClockRecordsVec

/-- The record of a source. -/
def find (store : ForeignClockRecordsVec) (source : PortIdentity) : Option ForeignClockRecord :=
  Keyed.lookup ForeignClockRecord.sourcePortIdentity source store.records

/-- At most one record for each source. -/
def Unique (store : ForeignClockRecordsVec) : Prop :=
  Keyed.Unique ForeignClockRecord.sourcePortIdentity store.records

theorem remember_spec {store : ForeignClockRecordsVec} (hu : store.Unique)
    (record : ForeignClockRecord) : ∃ store', store.remember record = .ok store' ∧ store'.Unique ∧
      ∀ source, store'.find source = if record.sourcePortIdentity = source then
        some (((store.find source).map (·.advance record)).getD record) else store.find source := by
  rw [remember]
  rcases updateExisting_spec store.records record with ⟨hnone, heq⟩ | ⟨existing, i, hi, hsame, heq⟩
  · rw [heq, Checked.ok_bind]
    refine ⟨_, rfl, hu.append hnone, fun source => ?_⟩
    rw [find, Keyed.lookup_append hnone]
    split_ifs with hsource
    · rw [find, ← hsource, hnone]
      rfl
    · rfl
  · rw [heq, Checked.ok_bind]
    have hkey : (existing.advance record).sourcePortIdentity = existing.sourcePortIdentity := rfl
    refine ⟨_, rfl, hu.set hi hkey, fun source => ?_⟩
    rw [find, Keyed.lookup_set hu hi hkey, hkey, hsame]
    split_ifs with hsource
    · have hfind : store.find source = some existing :=
        hu.lookup_eq_some.mpr ⟨List.mem_of_getElem? hi, hsame.trans hsource⟩
      rw [hfind]
      rfl
    · rfl

theorem unique_new : new.Unique := Keyed.unique_nil

theorem unique_pruneStale {store : ForeignClockRecordsVec} (hu : store.Unique) (now : Instant) :
    (store.pruneStale now).1.Unique :=
  hu.filter _

theorem find_pruneStale {store : ForeignClockRecordsVec} (hu : store.Unique) (now : Instant)
    (source : PortIdentity) :
    (store.pruneStale now).1.find source = (store.find source).filter fun r => !r.isStale now :=
  Keyed.lookup_filter hu _

end ForeignClockRecordsVec

/-- The record of a source after an Announce of any source. -/
def Announced.observed (a : Announced) (source : PortIdentity) (old : Option ForeignClockRecord) :
    Option ForeignClockRecord :=
  let retained := old.filter fun r => !r.isStale a.now
  if a.source = source then some ((retained.map (·.advance a.record)).getD a.record) else retained

namespace BestForeignRecord

/-- Consider one Announce after another. -/
def considerAll {R : Type} [ForeignClockRecords R] (b : BestForeignRecord R)
    (history : List Announced) : Checked (BestForeignRecord R) :=
  history.foldlM (fun b a => b.consider a.source a.ds a.interval a.now) b

variable {b : BestForeignRecord ForeignClockRecordsVec}

/-- What `consider` does to the record of each source. -/
theorem consider_spec (hu : b.foreignClockRecords.Unique) (a : Announced) :
    ∃ b', b.consider a.source a.ds a.interval a.now = .ok b' ∧ b'.receiver = b.receiver ∧
      b'.foreignClockRecords.Unique ∧ ∀ source, b'.foreignClockRecords.find source =
        a.observed source (b.foreignClockRecords.find source) := by
  obtain ⟨store, hremember, hunique, hfind⟩ := ForeignClockRecordsVec.remember_spec
    (ForeignClockRecordsVec.unique_pruneStale hu a.now) a.record
  refine ⟨⟨b.receiver, store⟩, ?_, rfl, hunique, fun source => ?_⟩
  · exact Checked.bind_eq_ok.mpr ⟨store, hremember, rfl⟩
  · rw [hfind source, ForeignClockRecordsVec.find_pruneStale hu]
    rfl

end BestForeignRecord

/-- The Announce messages of a source, the latest in front. -/
def heard (source : PortIdentity) (history : List Announced) : List Announced :=
  (history.filter fun a => decide (a.source = source)).reverse

theorem heard_append (source : PortIdentity) (history : List Announced) (a : Announced) :
    heard source (history ++ [a]) =
      if a.source = source then a :: heard source history else heard source history := by
  by_cases h : a.source = source
  · simp [heard, h]
  · simp [heard, h]

theorem mem_heard {source : PortIdentity} {history : List Announced} {a : Announced} :
    a ∈ heard source history ↔ a ∈ history ∧ a.source = source := by
  simp [heard]

/-- The time of the Announce before the latest, if it came within the window of that one. -/
def previousHeard (latest : Announced) : List Announced → Option Instant
  | previous :: _ =>
    if latest.now.nanos - previous.now.nanos ≤ previous.window then some previous.now else none
  | [] => none

/-- The record that the Announce messages of a source amount to. -/
def expectedRecord (now : Instant) : List Announced → Option ForeignClockRecord
  | latest :: earlier =>
    if now.nanos - latest.now.nanos ≤ latest.window then
      some ⟨latest.source, latest.ds, ⟨latest.now, previousHeard latest earlier,
        foreignMasterTimeWindow latest.interval⟩⟩
    else none
  | [] => none

section Expected

variable {a : Announced} {now later : Instant} {history : List Announced}

theorem isStale_eq {r : ForeignClockRecord} (h : r.qualification.last.nanos ≤ now.nanos) :
    r.isStale now =
      decide (r.qualification.window.nanos < now.nanos - r.qualification.last.nanos) := by
  simp [ForeignClockRecord.isStale, SlidingWindowQualification.isStale, Instant.checkedSub, h]

theorem expectedRecord_filter (hle : now.nanos ≤ later.nanos)
    (hpast : ∀ a ∈ history, a.now.nanos ≤ now.nanos) :
    (expectedRecord now history).filter (fun r => !r.isStale later) =
      expectedRecord later history := by
  cases history with
  | nil => rfl
  | cons latest earlier =>
    have hlatest := hpast latest List.mem_cons_self
    simp only [expectedRecord]
    by_cases hnow : now.nanos - latest.now.nanos ≤ latest.window
    · rw [if_pos hnow, Option.filter_some, isStale_eq (hlatest.trans hle),
        foreignMasterTimeWindow_nanos]
      by_cases hlater : later.nanos - latest.now.nanos ≤ latest.window
      · simp [hlater]
      · simp [hlater, Nat.lt_of_not_le hlater]
    · have hlater : ¬ later.nanos - latest.now.nanos ≤ latest.window := by omega
      rw [if_neg hnow, if_neg hlater]
      rfl

/-- An Announce turns the expected record of each source into the next one. -/
theorem observed_expected (source : PortIdentity) (hle : now.nanos ≤ a.now.nanos)
    (hpast : ∀ a ∈ history, a.now.nanos ≤ now.nanos) :
    a.observed source (expectedRecord now (heard source history)) =
      expectedRecord a.now (heard source (history ++ [a])) := by
  have hpast' : ∀ a ∈ heard source history, a.now.nanos ≤ now.nanos :=
    fun a ha => hpast a (mem_heard.mp ha).1
  rw [Announced.observed, expectedRecord_filter hle hpast', heard_append]
  split_ifs with hsource
  · have hself : a.now.nanos - a.now.nanos ≤ a.window := by omega
    rw [expectedRecord, if_pos hself]
    cases hheard : heard source history with
    | nil => rfl
    | cons previous earlier =>
      have hprevious : previous.source = a.source := by
        have hmem : previous ∈ heard source history := by
          rw [hheard]
          exact List.mem_cons_self
        rw [(mem_heard.mp hmem).2, hsource]
      simp only [expectedRecord, previousHeard]
      split_ifs with hwindow
      · simp [ForeignClockRecord.advance, SlidingWindowQualification.qualify, Announced.record,
          ForeignClockRecord.new, SlidingWindowQualification.newUnqualified, hprevious]
      · rfl
  · rfl

end Expected

/-- The times of receipt do not decrease. -/
def Chronological (history : List Announced) : Prop :=
  history.Pairwise fun a b => a.now.nanos ≤ b.now.nanos

/-- The run of a history over an empty store returns, and the store holds what is expected. -/
theorem considerAll_expected (receiver : PortIdentity) {history : List Announced}
    (h : Chronological history) :
    ∃ b, BestForeignRecord.considerAll ⟨receiver, ForeignClockRecordsVec.new⟩ history = .ok b ∧
      b.receiver = receiver ∧ b.foreignClockRecords.Unique ∧ ∀ source,
        b.foreignClockRecords.find source =
          history.getLast?.bind fun last => expectedRecord last.now (heard source history) := by
  induction history using List.reverseRecOn with
  | nil => exact ⟨_, rfl, rfl, ForeignClockRecordsVec.unique_new, fun _ => rfl⟩
  | append_singleton history a ih =>
    obtain ⟨hhistory, -, hlast⟩ := List.pairwise_append.mp h
    obtain ⟨b, hb, hreceiver, hunique, hfind⟩ := ih hhistory
    obtain ⟨b', hb', hreceiver', hunique', hfind'⟩ := BestForeignRecord.consider_spec hunique a
    refine ⟨b', ?_, hreceiver'.trans hreceiver, hunique', fun source => ?_⟩
    · rw [BestForeignRecord.considerAll, List.foldlM_append]
      exact Checked.bind_eq_ok.mpr ⟨b, hb, by rw [List.foldlM_cons, hb']; rfl⟩
    · rw [hfind', hfind, List.getLast?_concat, Option.bind_some]
      cases hprevious : history.getLast? with
      | none =>
        obtain rfl := List.getLast?_eq_none_iff.mp hprevious
        have hempty : ∀ c ∈ ([] : List Announced), c.now.nanos ≤ a.now.nanos := by simp
        exact observed_expected source le_rfl hempty
      | some last =>
        obtain ⟨earlier, rfl⟩ := List.getLast?_eq_some_iff.mp hprevious
        refine observed_expected source (hlast last (by simp) a (by simp)) fun c hc => ?_
        rcases List.mem_append.mp hc with hc | hc
        · exact (List.pairwise_append.mp hhistory).2.2 c hc last (by simp)
        · rw [List.mem_singleton.mp hc]

namespace BestForeignRecord

/-- The port holds a qualified record of the source. -/
def Qualifies {R : Type} [ForeignClockRecords R] (b : BestForeignRecord R) (source : PortIdentity) :
    Prop :=
  ∃ r ∈ ForeignClockRecords.iter b.foreignClockRecords,
    r.sourcePortIdentity = source ∧ r.isQualified = true

variable {R : Type} [ForeignClockRecords R] {b : BestForeignRecord R}

theorem mem_qualified {q : QualifiedForeignClockRecord} : q ∈ b.qualified ↔
    ∃ r ∈ ForeignClockRecords.iter b.foreignClockRecords, r.isQualified = true ∧
      q = ⟨r.foreignClockDs, r.sourcePortIdentity⟩ := by
  unfold qualified
  rw [List.mem_filterMap]
  refine exists_congr fun r => and_congr_right fun _ => ?_
  unfold ForeignClockRecord.qualified
  split_ifs with h
  · simp [h, eq_comm]
  · simp [h]

theorem snapshot_empty_iff : b.snapshot = .ok .empty ↔ ∀ source, ¬ b.Qualifies source := by
  have hnone : b.qualified = [] ↔ ∀ source, ¬ b.Qualifies source := by
    rw [List.eq_nil_iff_forall_not_mem]
    constructor
    · rintro h source ⟨r, hr, -, hq⟩
      exact h _ (mem_qualified.mpr ⟨r, hr, hq, rfl⟩)
    · rintro h q hq
      obtain ⟨r, hr, hq, -⟩ := mem_qualified.mp hq
      exact h r.sourcePortIdentity ⟨r, hr, rfl, hq⟩
  rw [← hnone]
  rcases b.snapshot_cases with ⟨hq, hs⟩ | ⟨q, hq, hs⟩
  · exact iff_of_true hs hq
  · refine iff_of_false ?_ (List.ne_nil_of_mem hq)
    rw [hs]
    intro h
    cases h

theorem snapshot_qualified {ds : ClockDS} {source receiver : PortIdentity}
    (h : b.snapshot = .ok (.qualified ds source receiver)) :
    receiver = b.receiver ∧ ∃ r ∈ ForeignClockRecords.iter b.foreignClockRecords,
      r.sourcePortIdentity = source ∧ r.isQualified = true ∧ r.foreignClockDs = ds := by
  rcases b.snapshot_cases with ⟨-, hs⟩ | ⟨q, hq, hs⟩
  · rw [hs] at h
    cases h
  · rw [hs] at h
    cases h
    obtain ⟨r, hr, hqualified, rfl⟩ := mem_qualified.mp hq
    exact ⟨rfl, r, hr, rfl, hqualified, rfl⟩

end BestForeignRecord

/-- The latest two Announce messages of the source are within the windows of both, and the latest is
within its own window of the time. -/
def QualifiedBy (history : List Announced) (now : Instant) (source : PortIdentity) : Prop :=
  match heard source history with
  | latest :: previous :: _ =>
    latest.now.nanos - previous.now.nanos ≤ min previous.window latest.window ∧
      now.nanos - latest.now.nanos ≤ latest.window
  | _ => False

theorem heard_chronological {history : List Announced} (h : Chronological history)
    (source : PortIdentity) :
    (heard source history).Pairwise fun a b => b.now.nanos ≤ a.now.nanos := by
  unfold heard
  rw [List.pairwise_reverse]
  exact List.Pairwise.filter _ h

theorem expectedRecord_qualified {history : List Announced} (h : Chronological history)
    (now : Instant) (source : PortIdentity) :
    (∃ r, expectedRecord now (heard source history) = some r ∧ r.isQualified = true) ↔
      QualifiedBy history now source := by
  have hsorted := heard_chronological h source
  unfold QualifiedBy
  cases hheard : heard source history with
  | nil => simp [expectedRecord]
  | cons latest earlier =>
    rw [hheard] at hsorted
    cases earlier with
    | nil =>
      simp only [expectedRecord, previousHeard, iff_false]
      rintro ⟨r, hr, hqualified⟩
      split_ifs at hr
      cases hr
      cases hqualified
    | cons previous earlier =>
      have hle : previous.now.nanos ≤ latest.now.nanos :=
        (List.pairwise_cons.mp hsorted).1 previous List.mem_cons_self
      have hwindow := foreignMasterTimeWindow_nanos latest
      simp only [expectedRecord, previousHeard, le_min_iff]
      by_cases hnow : now.nanos - latest.now.nanos ≤ latest.window
      · by_cases hprevious : latest.now.nanos - previous.now.nanos ≤ previous.window
        · simp [hnow, hprevious, ForeignClockRecord.isQualified,
            SlidingWindowQualification.isQualified, Instant.checkedSub, hle, hwindow]
        · simp [hnow, hprevious, ForeignClockRecord.isQualified,
            SlidingWindowQualification.isQualified]
      · simp [hnow]

theorem ForeignClockRecordsVec.mem_iff_find {store : ForeignClockRecordsVec} (hu : store.Unique)
    {r : ForeignClockRecord} : r ∈ store.records ↔ store.find r.sourcePortIdentity = some r :=
  ⟨fun h => hu.lookup_eq_some.mpr ⟨h, rfl⟩, fun h => (Keyed.mem_of_lookup h).1⟩

/-- After a history of Announce messages that ends now, a port holds at most one record of each
source and no stale one. A source is qualified exactly as its latest two Announce messages say, the
snapshot is empty exactly when none is, and otherwise it names a qualified source with the data set
that it announced last. -/
theorem considerAll_qualification (receiver : PortIdentity) (history : List Announced)
    (last : Announced) (h : Chronological (history ++ [last])) :
    ∃ b, BestForeignRecord.considerAll ⟨receiver, ForeignClockRecordsVec.new⟩ (history ++ [last]) =
        .ok b ∧
      (b.foreignClockRecords.records.map ForeignClockRecord.sourcePortIdentity).Nodup ∧
      (∀ source, b.Qualifies source ↔ QualifiedBy (history ++ [last]) last.now source) ∧
      (b.snapshot = .ok .empty ↔ ∀ source, ¬ b.Qualifies source) ∧
      (∀ ds source port, b.snapshot = .ok (.qualified ds source port) →
        b.Qualifies source ∧ port = receiver ∧
          (heard source (history ++ [last])).head?.map Announced.ds = some ds) ∧
      ∀ r ∈ b.foreignClockRecords.records, r.isStale last.now = false := by
  obtain ⟨b, hb, hreceiver, hunique, hfind⟩ := considerAll_expected receiver h
  have hfind' : ∀ source, b.foreignClockRecords.find source =
      expectedRecord last.now (heard source (history ++ [last])) := by
    intro source
    rw [hfind, List.getLast?_concat]
    rfl
  have hpast : ∀ a ∈ history ++ [last], a.now.nanos ≤ last.now.nanos := by
    intro a ha
    rcases List.mem_append.mp ha with ha | ha
    · exact (List.pairwise_append.mp h).2.2 a ha last (by simp)
    · rw [List.mem_singleton.mp ha]
  have hmem : ∀ r ∈ b.foreignClockRecords.records,
      expectedRecord last.now (heard r.sourcePortIdentity (history ++ [last])) = some r := by
    intro r hr
    rw [← hfind']
    exact (ForeignClockRecordsVec.mem_iff_find hunique).mp hr
  refine ⟨b, hb, hunique, ?_, BestForeignRecord.snapshot_empty_iff, ?_, ?_⟩
  · intro source
    rw [← expectedRecord_qualified h]
    constructor
    · rintro ⟨r, hr, rfl, hqualified⟩
      exact ⟨r, hmem r hr, hqualified⟩
    · rintro ⟨r, hr, hqualified⟩
      rw [← hfind'] at hr
      obtain ⟨hrecord, hsource⟩ := Keyed.mem_of_lookup hr
      exact ⟨r, hrecord, hsource, hqualified⟩
  · intro ds source port hsnap
    obtain ⟨rfl, r, hr, rfl, hqualified, rfl⟩ := BestForeignRecord.snapshot_qualified hsnap
    refine ⟨⟨r, hr, rfl, hqualified⟩, hreceiver, ?_⟩
    have hexpected := hmem r hr
    cases hheard : heard r.sourcePortIdentity (history ++ [last]) with
    | nil =>
      rw [hheard] at hexpected
      cases hexpected
    | cons latest earlier =>
      rw [hheard] at hexpected
      simp only [expectedRecord] at hexpected
      split_ifs at hexpected
      cases hexpected
      rfl
  · intro r hr
    have hexpected := hmem r hr
    rw [← expectedRecord_filter le_rfl (fun a ha => hpast a (mem_heard.mp ha).1)] at hexpected
    have hretained := (Option.filter_eq_some_iff.mp hexpected).2
    simpa using hretained

theorem announcedDs_octets (identity : UInt8) : [identity, 0, 0, 0, 0, 0, 0, 0].length = 8 := rfl

/-- A data set with the given identity, first priority and distance. -/
def announcedDs (identity priority1 : UInt8) (stepsRemoved : UInt16) : ClockDS :=
  ⟨⟨Octets.ofList [identity, 0, 0, 0, 0, 0, 0, 0] (announcedDs_octets identity)⟩, ⟨priority1⟩,
    ⟨128⟩, ⟨.default, .unknown, 0⟩, ⟨stepsRemoved⟩⟩

/-- The first port of a clock. -/
def sourceOf (identity : UInt8) : PortIdentity := ⟨(announcedDs identity 128 0).identity, ⟨1⟩⟩

/-- A clock is heard again after two seconds, with twice the interval. -/
def changedHistory : List Announced :=
  [⟨sourceOf 1, announcedDs 1 128 0, oneSecond, .fromSecs 0⟩,
    ⟨sourceOf 3, announcedDs 3 128 0, oneSecond, .fromSecs 0⟩,
    ⟨sourceOf 1, announcedDs 1 128 0, twoSeconds, .fromSecs 2⟩]

/-- The second Announce of another clock comes too late. -/
def lateAnnounce : Announced := ⟨sourceOf 3, announcedDs 3 128 0, oneSecond, .fromSecs 9⟩

theorem considerAll_qualification_changed :
    ∃ b, BestForeignRecord.considerAll ⟨sourceOf 2, ForeignClockRecordsVec.new⟩
        (changedHistory ++ [lateAnnounce]) = .ok b ∧
      b.Qualifies (sourceOf 1) ∧ ¬ b.Qualifies (sourceOf 3) := by
  have hchronological : Chronological (changedHistory ++ [lateAnnounce]) := by
    unfold Chronological
    decide
  obtain ⟨b, hb, -, hqualifies, -⟩ :=
    considerAll_qualification (sourceOf 2) changedHistory lateAnnounce hchronological
  refine ⟨b, hb, (hqualifies _).mpr ⟨by decide, by decide⟩, fun h => ?_⟩
  exact absurd ((hqualifies _).mp h).1 (by decide)

end Rptp
