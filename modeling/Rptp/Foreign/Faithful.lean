import Rptp.Foreign.History

/-! # Faithful stores

A store drops what is stale, and of each source it keeps nothing but what it was told last. Both
stores do, the bounded one as well when it evicts a record. A source that has been silent for longer
than its window is then not qualified after the next Announce of any source.
-/

namespace Rptp

open Machine

/-- The records after one was remembered. The source of that record has no other one. -/
structure Kept (records : List ForeignClockRecord) (record : ForeignClockRecord)
    (records' : List ForeignClockRecord) : Prop where
  unique : Keyed.Unique ForeignClockRecord.sourcePortIdentity records'
  mem : ∀ r ∈ records', (r ∈ records ∧ r.sourcePortIdentity ≠ record.sourcePortIdentity) ∨
    r = record ∨ ∃ old ∈ records, old.sourcePortIdentity = record.sourcePortIdentity ∧
      r = old.advance record

namespace Kept

variable {records : List ForeignClockRecord} {record : ForeignClockRecord}

theorem omitted (hu : Keyed.Unique ForeignClockRecord.sourcePortIdentity records)
    (hnew : Keyed.lookup ForeignClockRecord.sourcePortIdentity record.sourcePortIdentity records =
      none) : Kept records record records :=
  ⟨hu, fun r hr => .inl ⟨hr, Keyed.lookup_eq_none.mp hnew r hr⟩⟩

theorem appended {retained : List ForeignClockRecord} (hs : retained.Sublist records)
    (hu : Keyed.Unique ForeignClockRecord.sourcePortIdentity records)
    (hnew : Keyed.lookup ForeignClockRecord.sourcePortIdentity record.sourcePortIdentity records =
      none) : Kept records record (retained ++ [record]) := by
  have hother := Keyed.lookup_eq_none.mp hnew
  constructor
  · refine (hu.sublist hs).append (Keyed.lookup_eq_none.mpr fun r hr => ?_)
    exact hother r (hs.subset hr)
  · intro r hr
    rcases List.mem_append.mp hr with hr | hr
    · exact .inl ⟨hs.subset hr, hother r (hs.subset hr)⟩
    · exact .inr (.inl (List.mem_singleton.mp hr))

theorem updated {existing : ForeignClockRecord} {i : ℕ}
    (hu : Keyed.Unique ForeignClockRecord.sourcePortIdentity records)
    (hi : records[i]? = some existing)
    (hsame : existing.sourcePortIdentity = record.sourcePortIdentity) :
    Kept records record (records.set i (existing.advance record)) := by
  have hmem : existing ∈ records := List.mem_of_getElem? hi
  have hkey : (existing.advance record).sourcePortIdentity = existing.sourcePortIdentity := rfl
  have hset := hu.set hi hkey
  refine ⟨hset, fun r hr => ?_⟩
  by_cases hsource : r.sourcePortIdentity = record.sourcePortIdentity
  · refine .inr (.inr ⟨existing, hmem, hsame, ?_⟩)
    have hi' := (List.getElem?_eq_some_iff.mp hi).1
    have hnew : existing.advance record ∈ records.set i (existing.advance record) :=
      List.mem_set hi' _
    exact hset.eq_of_key hr hnew (hsource.trans (hkey.trans hsame).symm)
  · rcases List.mem_or_eq_of_mem_set hr with hr | rfl
    · exact .inl ⟨hr, hsource⟩
    · exact absurd (hkey.trans hsame) hsource

end Kept

/-- A store that drops what is stale, and keeps of each source what it was told last. -/
class FaithfulForeignClockRecords (R : Type) [ForeignClockRecords R] : Prop where
  iter_pruneStale : ∀ (store : R) (now : Instant),
    ForeignClockRecords.iter (ForeignClockRecords.pruneStale store now).1 =
      (ForeignClockRecords.iter store).filter fun r => !r.isStale now
  kept : ∀ (store store' : R) (record : ForeignClockRecord),
    Keyed.Unique ForeignClockRecord.sourcePortIdentity (ForeignClockRecords.iter store) →
    ForeignClockRecords.remember store record = .ok store' →
    Kept (ForeignClockRecords.iter store) record (ForeignClockRecords.iter store')

instance : FaithfulForeignClockRecords ForeignClockRecordsVec where
  iter_pruneStale _ _ := rfl
  kept store store' record hu h := by
    obtain ⟨found, hfound, h⟩ := Checked.bind_eq_ok.mp h
    rcases updateExisting_spec store.records record with ⟨hnone, heq⟩ | ⟨existing, i, hi, hsame, heq⟩
    · cases heq.symm.trans hfound
      cases h
      exact .appended (List.Sublist.refl _) hu hnone
    · cases heq.symm.trans hfound
      cases h
      exact .updated hu hi hsame

instance {N : ℕ} : FaithfulForeignClockRecords (HeaplessForeignClockRecords N) where
  iter_pruneStale _ _ := rfl
  kept store store' record hu h := by
    have pushed : ∀ {kept store' : HeaplessForeignClockRecords N},
        kept.records.Sublist store.records → kept.push record = some store' →
        Keyed.lookup ForeignClockRecord.sourcePortIdentity record.sourcePortIdentity store.records =
          none → Kept store.records record store'.records := by
      intro kept store' hsub hpush hnone
      unfold HeaplessForeignClockRecords.push at hpush
      split_ifs at hpush
      cases hpush
      exact .appended hsub hu hnone
    obtain ⟨found, hfound, h⟩ := Checked.bind_eq_ok.mp h
    rcases updateExisting_spec store.records record with ⟨hnone, heq⟩ | ⟨existing, i, hi, hsame, heq⟩
    · cases heq.symm.trans hfound
      dsimp only at h
      cases hpush : store.push record with
      | some store₁ =>
        rw [hpush] at h
        cases h
        exact pushed (List.Sublist.refl _) hpush hnone
      | none =>
        rw [hpush] at h
        obtain ⟨index, -, h⟩ := Checked.bind_eq_ok.mp h
        cases index with
        | none =>
          cases h
          exact .omitted hu hnone
        | some index =>
          obtain ⟨removed, hremoved, h⟩ := Checked.bind_eq_ok.mp h
          unfold HeaplessForeignClockRecords.remove at hremoved
          split_ifs at hremoved
          cases hremoved
          split at h
          · rename_i hroom
            cases h
            exact pushed (List.eraseIdx_sublist _ _) hroom hnone
          · cases h
    · cases heq.symm.trans hfound
      cases h
      exact .updated hu hi hsame

/-- The last Announce of the source is older than its window. -/
def Silent (history : List Announced) (source : PortIdentity) (now : Instant) : Prop :=
  ∀ a, (heard source history).head? = some a → a.window < now.nanos - a.now.nanos

namespace BestForeignRecord

variable {R : Type} [ForeignClockRecords R]

/-- The records are of the last Announce messages of their sources. -/
structure Recalls (b : BestForeignRecord R) (history : List Announced) : Prop where
  unique : Keyed.Unique ForeignClockRecord.sourcePortIdentity
    (ForeignClockRecords.iter b.foreignClockRecords)
  last : ∀ r ∈ ForeignClockRecords.iter b.foreignClockRecords, ∃ a,
    (heard r.sourcePortIdentity history).head? = some a ∧ r.qualification.last = a.now ∧
      r.qualification.window = foreignMasterTimeWindow a.interval

theorem recalls_empty {b : BestForeignRecord R}
    (h : ForeignClockRecords.iter b.foreignClockRecords = []) : b.Recalls [] := by
  constructor
  · rw [h]
    exact Keyed.unique_nil
  · rw [h]
    intro r hr
    cases hr

theorem Recalls.isStale {b : BestForeignRecord R} {history : List Announced} {now : Instant}
    {r : ForeignClockRecord} (hb : b.Recalls history)
    (hr : r ∈ ForeignClockRecords.iter b.foreignClockRecords)
    (hsilent : Silent history r.sourcePortIdentity now) : r.isStale now = true := by
  obtain ⟨a, hhead, hlast, hwindow⟩ := hb.last r hr
  have hold := hsilent a hhead
  have hle : r.qualification.last.nanos ≤ now.nanos := by
    rw [hlast]
    omega
  rw [isStale_eq hle, hlast, hwindow, foreignMasterTimeWindow_nanos]
  exact decide_eq_true hold

variable [FaithfulForeignClockRecords R]

theorem consider_kept {b b' : BestForeignRecord R} {history : List Announced} (hb : b.Recalls history)
    {a : Announced} (h : b.consider a.source a.ds a.interval a.now = .ok b') :
    Kept ((ForeignClockRecords.iter b.foreignClockRecords).filter fun r => !r.isStale a.now) a.record
      (ForeignClockRecords.iter b'.foreignClockRecords) := by
  obtain ⟨records, hremember, hret⟩ := Checked.bind_eq_ok.mp h
  cases hret
  have hpruned := FaithfulForeignClockRecords.iter_pruneStale b.foreignClockRecords a.now
  rw [← hpruned]
  refine FaithfulForeignClockRecords.kept _ _ _ ?_ hremember
  rw [hpruned]
  exact hb.unique.filter _

theorem Recalls.consider {b b' : BestForeignRecord R} {history : List Announced}
    (hb : b.Recalls history) {a : Announced}
    (h : b.consider a.source a.ds a.interval a.now = .ok b') : b'.Recalls (history ++ [a]) := by
  have hkept := consider_kept hb h
  refine ⟨hkept.unique, fun r hr => ?_⟩
  rcases hkept.mem r hr with ⟨hold, hother⟩ | rfl | ⟨old, -, hsame, rfl⟩
  · have hne : a.source ≠ r.sourcePortIdentity := Ne.symm hother
    rw [heard_append, if_neg hne]
    exact hb.last r (List.mem_filter.mp hold).1
  · have hsource : a.source = a.record.sourcePortIdentity := rfl
    rw [heard_append, if_pos hsource]
    exact ⟨a, rfl, rfl, rfl⟩
  · have hsource : a.source = (old.advance a.record).sourcePortIdentity := hsame.symm
    rw [heard_append, if_pos hsource]
    exact ⟨a, rfl, rfl, rfl⟩

/-- A silent source is not qualified after the next Announce, whoever sends it. -/
theorem Recalls.not_qualifies {b b' : BestForeignRecord R} {history : List Announced}
    (hb : b.Recalls history) {a : Announced} {source : PortIdentity}
    (hsilent : Silent history source a.now)
    (h : b.consider a.source a.ds a.interval a.now = .ok b') : ¬ b'.Qualifies source := by
  have hpruned : ∀ r ∈ (ForeignClockRecords.iter b.foreignClockRecords).filter
      (fun r => !r.isStale a.now), r.sourcePortIdentity ≠ source := by
    rintro r hr rfl
    obtain ⟨hr, hfresh⟩ := List.mem_filter.mp hr
    rw [hb.isStale hr hsilent] at hfresh
    cases hfresh
  rintro ⟨r, hr, hsource, hqualified⟩
  rcases (consider_kept hb h).mem r hr with ⟨hold, -⟩ | rfl | ⟨old, hold, -, rfl⟩
  · exact hpruned r hold hsource
  · cases hqualified
  · exact hpruned old hold hsource

end BestForeignRecord

end Rptp
