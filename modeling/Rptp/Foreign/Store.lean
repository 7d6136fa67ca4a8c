import Rptp.Foreign.Record
import Rptp.Machine.Selection

/-! # Stores of foreign clock records

`ForeignClockRecords` is the storage interface of a port. The two implementations differ only in
what they do with a new source: the growing store appends it and the bounded store may evict a
worse record for it.
-/

namespace Rptp

open Machine

class ForeignClockRecords (R : Type) where
  remember : R → ForeignClockRecord → Checked R
  iter : R → List ForeignClockRecord
  pruneStale : R → Instant → R × Bool

/-- A store whose `remember` always returns. -/
class LawfulForeignClockRecords (R : Type) [ForeignClockRecords R] : Prop where
  remember_returns : ∀ (store : R) (record : ForeignClockRecord),
    ∃ store', ForeignClockRecords.remember store record = .ok store'

/-- The position of the first record of the same source, with that record updated. -/
def updateExisting (records : List ForeignClockRecord) (record : ForeignClockRecord) :
    Checked (Option (ℕ × ForeignClockRecord)) :=
  match records.zipIdx.find? fun entry => entry.1.sameSourceAs record.sourcePortIdentity with
  | some (existing, i) => do
    let (updated, _) ← existing.updateFrom record
    pure (some (i, updated))
  | none => pure none

theorem updateExisting_returns (records : List ForeignClockRecord) (record : ForeignClockRecord) :
    ∃ r, updateExisting records record = .ok r := by
  unfold updateExisting
  cases h : records.zipIdx.find? fun e => e.1.sameSourceAs record.sourcePortIdentity with
  | none => exact ⟨_, rfl⟩
  | some entry =>
    obtain ⟨existing, i⟩ := entry
    have hsame := List.find?_some h
    obtain ⟨u, s, hu, -⟩ := ForeignClockRecord.updateFrom_returns
      (by simpa [ForeignClockRecord.sameSourceAs] using hsame)
    exact ⟨some (i, u), by simp [hu]⟩

/-- The growing store. -/
structure ForeignClockRecordsVec where
  records : List ForeignClockRecord
deriving DecidableEq

namespace ForeignClockRecordsVec

def new : ForeignClockRecordsVec := ⟨[]⟩

def remember (store : ForeignClockRecordsVec) (record : ForeignClockRecord) :
    Checked ForeignClockRecordsVec := do
  match ← updateExisting store.records record with
  | some (i, updated) => pure ⟨store.records.set i updated⟩
  | none => pure ⟨store.records ++ [record]⟩

def pruneStale (store : ForeignClockRecordsVec) (now : Instant) : ForeignClockRecordsVec × Bool :=
  let retained := store.records.filter fun record => !record.isStale now
  (⟨retained⟩, decide (retained.length ≠ store.records.length))

instance : ForeignClockRecords ForeignClockRecordsVec where
  remember := remember
  iter := records
  pruneStale := pruneStale

instance : LawfulForeignClockRecords ForeignClockRecordsVec where
  remember_returns store record := by
    obtain ⟨r, hr⟩ := updateExisting_returns store.records record
    change ∃ store', remember store record = .ok store'
    rw [remember, hr, Checked.ok_bind]
    cases r with
    | none => exact ⟨_, rfl⟩
    | some entry => exact ⟨_, rfl⟩

end ForeignClockRecordsVec

/-- The bounded store, which knows the port it stores for. -/
structure HeaplessForeignClockRecords (N : ℕ) where
  records : List ForeignClockRecord
  capacity : records.length ≤ N
  receiver : PortIdentity
deriving DecidableEq

namespace HeaplessForeignClockRecords

variable {N : ℕ}

def new (receiver : PortIdentity) : HeaplessForeignClockRecords N := ⟨[], Nat.zero_le N, receiver⟩

/-- Append a record if there is room. -/
def push (store : HeaplessForeignClockRecords N) (record : ForeignClockRecord) :
    Option (HeaplessForeignClockRecords N) :=
  if h : store.records.length < N then
    some { store with records := store.records ++ [record], capacity := by simpa using h }
  else none

/-- Remove by index, which panics outside the store. -/
def remove (store : HeaplessForeignClockRecords N) (index : ℕ) :
    Checked (HeaplessForeignClockRecords N) :=
  if index < store.records.length then
    pure { store with
      records := store.records.eraseIdx index
      capacity := (List.length_eraseIdx_le ..).trans store.capacity }
  else .error (.outOfRange index (index + 1) store.records.length)

def recordAt (current : List ForeignClockRecord) (index : ℕ) : Checked ForeignClockRecord :=
  match current[index]? with
  | some record => pure record
  | none => .error (.outOfRange index (index + 1) current.length)

/-- One round of the eviction scan over the records that the candidate beats. -/
def scanWorst (current : List ForeignClockRecord) (candidate : ForeignClockRecord)
    (receiver : PortIdentity) (worstIndex : Option ℕ) (entry : ForeignClockRecord × ℕ) :
    Checked (Option ℕ) := do
  if ← candidate.isBetterThan receiver entry.1 then
    match worstIndex with
    | none => pure (some entry.2)
    | some w =>
      if ← entry.1.isBetterThan receiver (← recordAt current w) then pure (some w)
      else pure (some entry.2)
  else pure worstIndex

/-- The record to evict for `candidate`: the worst of those that the candidate beats. -/
def candidateIndex (current : List ForeignClockRecord) (candidate : ForeignClockRecord)
    (receiver : PortIdentity) : Checked (Option ℕ) :=
  current.zipIdx.foldlM (scanWorst current candidate receiver) none

def remember (store : HeaplessForeignClockRecords N) (record : ForeignClockRecord) :
    Checked (HeaplessForeignClockRecords N) := do
  match ← updateExisting store.records record with
  | some (i, updated) =>
    pure { store with
      records := store.records.set i updated
      capacity := by simpa using store.capacity }
  | none =>
    match store.push record with
    | some store' => pure store'
    | none =>
      match ← candidateIndex store.records record store.receiver with
      | none => pure store
      | some index => do
        let removed ← store.remove index
        match removed.push record with
        | some store' => pure store'
        | none => .error (.assertion "result.is_ok()")

def pruneStale (store : HeaplessForeignClockRecords N) (now : Instant) :
    HeaplessForeignClockRecords N × Bool :=
  let retained := store.records.filter fun record => !record.isStale now
  ({ store with
      records := retained
      capacity := (List.length_filter_le ..).trans store.capacity },
    decide (retained.length ≠ store.records.length))

instance : ForeignClockRecords (HeaplessForeignClockRecords N) where
  remember := remember
  iter := records
  pruneStale := pruneStale

theorem scanWorst_returns {current : List ForeignClockRecord} {candidate : ForeignClockRecord}
    {receiver : PortIdentity} {worstIndex : Option ℕ} {entry : ForeignClockRecord × ℕ}
    (hentry : entry ∈ current.zipIdx) (hw : ∀ w ∈ worstIndex, w < current.length) :
    ∃ r, scanWorst current candidate receiver worstIndex entry = .ok r ∧
      ∀ w ∈ r, w < current.length := by
  have hi : entry.2 < current.length := by
    have h := List.snd_lt_of_mem_zipIdx hentry
    simpa using h
  obtain ⟨c, hc⟩ := TopologyDS.isBetterOrBetterByTopology_returns
    (TopologyDS.foreign candidate.foreignClockDs candidate.sourcePortIdentity receiver)
    (TopologyDS.foreign entry.1.foreignClockDs entry.1.sourcePortIdentity receiver)
  unfold scanWorst
  rw [ForeignClockRecord.isBetterThan, hc, Checked.ok_bind]
  cases c with
  | false => exact ⟨worstIndex, rfl, hw⟩
  | true =>
    cases worstIndex with
    | none => exact ⟨some entry.2, rfl, by simpa using hi⟩
    | some w =>
      have hwl := hw w rfl
      obtain ⟨d, hd⟩ := TopologyDS.isBetterOrBetterByTopology_returns
        (TopologyDS.foreign entry.1.foreignClockDs entry.1.sourcePortIdentity receiver)
        (TopologyDS.foreign current[w].foreignClockDs current[w].sourcePortIdentity receiver)
      have hat : recordAt current w = .ok current[w] := by simp [recordAt, hwl]
      simp only [hat, Checked.ok_bind, ForeignClockRecord.isBetterThan, hd]
      cases d with
      | false => exact ⟨some entry.2, rfl, by simpa using hi⟩
      | true => exact ⟨some w, rfl, by simpa using hwl⟩

theorem candidateIndex_returns (current : List ForeignClockRecord)
    (candidate : ForeignClockRecord) (receiver : PortIdentity) :
    ∃ r, candidateIndex current candidate receiver = .ok r ∧ ∀ w ∈ r, w < current.length :=
  Checked.foldlM_returns (fun _ _ hentry hw => scanWorst_returns hentry hw) none (by simp)

instance : LawfulForeignClockRecords (HeaplessForeignClockRecords N) where
  remember_returns store record := by
    obtain ⟨r, hr⟩ := updateExisting_returns store.records record
    change ∃ store', remember store record = .ok store'
    rw [remember, hr, Checked.ok_bind]
    cases r with
    | some entry => exact ⟨_, rfl⟩
    | none =>
      dsimp only
      cases hp : store.push record with
      | some store' => exact ⟨_, rfl⟩
      | none =>
        dsimp only
        obtain ⟨i, hi, hlt⟩ := candidateIndex_returns store.records record store.receiver
        rw [hi, Checked.ok_bind]
        cases i with
        | none => exact ⟨_, rfl⟩
        | some index =>
          have hil := hlt index rfl
          have hroom : (store.records.eraseIdx index).length < N := by
            rw [List.length_eraseIdx_of_lt hil]
            have := store.capacity
            omega
          simp only [remove, if_pos hil, Checked.pure_eq, Checked.ok_bind, push, dif_pos hroom]
          exact ⟨_, rfl⟩

end HeaplessForeignClockRecords

/-- The records of a port with the identity of that port. -/
structure BestForeignRecord (R : Type) where
  receiver : PortIdentity
  foreignClockRecords : R
deriving DecidableEq

namespace BestForeignRecord

variable {R : Type} [ForeignClockRecords R]

/-- Prune what is stale now, then take the new observation in. -/
def consider (b : BestForeignRecord R) (sourcePortIdentity : PortIdentity)
    (foreignClockDs : ClockDS) (logAnnounceInterval : LogInterval) (now : Instant) :
    Checked (BestForeignRecord R) := do
  let (pruned, _) := ForeignClockRecords.pruneStale b.foreignClockRecords now
  let records ← ForeignClockRecords.remember pruned
    (ForeignClockRecord.new sourcePortIdentity foreignClockDs logAnnounceInterval now)
  pure { b with foreignClockRecords := records }

/-- The qualified records, in storage order. -/
def qualified (b : BestForeignRecord R) : List QualifiedForeignClockRecord :=
  (ForeignClockRecords.iter b.foreignClockRecords).filterMap ForeignClockRecord.qualified

def snapshot (b : BestForeignRecord R) : Checked BestForeignSnapshot := do
  match ← selectBest (QualifiedForeignClockRecord.isBetterThan b.receiver) b.qualified with
  | some q => pure (q.snapshot b.receiver)
  | none => pure .empty

theorem isBetterThan_returns (receiver : PortIdentity) (a b : QualifiedForeignClockRecord) :
    ∃ r, QualifiedForeignClockRecord.isBetterThan receiver a b = .ok r :=
  TopologyDS.isBetterOrBetterByTopology_returns _ _

/-- A snapshot is of a qualified record and names the port it was received on. -/
theorem snapshot_cases (b : BestForeignRecord R) :
    (b.qualified = [] ∧ b.snapshot = .ok .empty) ∨
      ∃ q ∈ b.qualified, b.snapshot = .ok (q.snapshot b.receiver) := by
  by_cases hl : b.qualified = []
  · left
    refine ⟨hl, ?_⟩
    rw [snapshot, hl]
    rfl
  · right
    obtain ⟨q, hq, hs⟩ := selectBest_mem (isBetterThan_returns b.receiver) hl
    exact ⟨q, hq, by rw [snapshot, hs]; rfl⟩

theorem snapshot_returns (b : BestForeignRecord R) : ∃ s, b.snapshot = .ok s := by
  rcases b.snapshot_cases with ⟨-, h⟩ | ⟨q, -, h⟩
  · exact ⟨_, h⟩
  · exact ⟨_, h⟩

theorem consider_receiver {b b' : BestForeignRecord R} {source : PortIdentity} {ds : ClockDS}
    {interval : LogInterval} {now : Instant} (h : b.consider source ds interval now = .ok b') :
    b'.receiver = b.receiver := by
  obtain ⟨records, -, hrecords⟩ := Checked.bind_eq_ok.mp h
  cases hrecords
  rfl

theorem consider_returns [LawfulForeignClockRecords R] (b : BestForeignRecord R)
    (source : PortIdentity) (ds : ClockDS) (interval : LogInterval) (now : Instant) :
    ∃ b', b.consider source ds interval now = .ok b' := by
  obtain ⟨records, h⟩ := LawfulForeignClockRecords.remember_returns
    (ForeignClockRecords.pruneStale b.foreignClockRecords now).1
    (ForeignClockRecord.new source ds interval now)
  exact ⟨{ b with foreignClockRecords := records }, by simp [consider, h]⟩

end BestForeignRecord

end Rptp
