import Rptp.Foreign.Best

/-! # The bounded store

Up to its capacity the bounded store is the growing store. At its capacity it gives up the worst of
the records it has and the new one, if the comparison orders them.
-/

namespace Rptp

open Machine

section Refinement

variable {N : ℕ}

/-- With room for the result, both stores remember in the same way. -/
theorem HeaplessForeignClockRecords.remember_refines {store : HeaplessForeignClockRecords N}
    {vec vec' : ForeignClockRecordsVec} {record : ForeignClockRecord}
    (h : store.records = vec.records) (hvec : vec.remember record = .ok vec')
    (hroom : vec'.records.length ≤ N) :
    ∃ store', store.remember record = .ok store' ∧ store'.records = vec'.records := by
  rw [ForeignClockRecordsVec.remember, ← h] at hvec
  obtain ⟨r, hr, hr'⟩ := Checked.bind_eq_ok.mp hvec
  rw [remember, hr, Checked.ok_bind]
  cases r with
  | some entry =>
    cases hr'
    exact ⟨_, rfl, rfl⟩
  | none =>
    cases hr'
    have hlt : store.records.length < N := by simpa using hroom
    have hpush : store.push record =
        some { store with records := store.records ++ [record], capacity := by simpa using hlt } :=
      dif_pos hlt
    rw [hpush]
    exact ⟨_, rfl, rfl⟩

namespace BestForeignRecord

/-- The two stores hold the same list of records, for the same port. -/
structure Refines (h : BestForeignRecord (HeaplessForeignClockRecords N))
    (b : BestForeignRecord ForeignClockRecordsVec) : Prop where
  receiver : h.receiver = b.receiver
  records : h.foreignClockRecords.records = b.foreignClockRecords.records

variable {h : BestForeignRecord (HeaplessForeignClockRecords N)}
  {b b' : BestForeignRecord ForeignClockRecordsVec}

theorem Refines.snapshot (hr : h.Refines b) : h.snapshot = b.snapshot := by
  have hqualified : h.qualified = b.qualified := congrArg (List.filterMap _) hr.records
  rw [BestForeignRecord.snapshot, BestForeignRecord.snapshot, hqualified, hr.receiver]

/-- One more Announce, as long as the growing store stays within the capacity. -/
theorem Refines.consider (hr : h.Refines b) (a : Announced)
    (hb : b.consider a.source a.ds a.interval a.now = .ok b')
    (hroom : b'.foreignClockRecords.records.length ≤ N) :
    ∃ h', h.consider a.source a.ds a.interval a.now = .ok h' ∧ h'.Refines b' := by
  obtain ⟨vec', hvec, hb'⟩ := Checked.bind_eq_ok.mp hb
  cases hb'
  have hpruned : (h.foreignClockRecords.pruneStale a.now).1.records =
      (b.foreignClockRecords.pruneStale a.now).1.records :=
    congrArg (List.filter _) hr.records
  obtain ⟨store', hstore, hrecords⟩ :=
    HeaplessForeignClockRecords.remember_refines hpruned hvec hroom
  refine ⟨{ h with foreignClockRecords := store' }, ?_, hr.receiver, hrecords⟩
  exact Checked.bind_eq_ok.mpr ⟨store', hstore, rfl⟩

/-- As long as the growing store stays within the capacity of the bounded one, both hold the same
records and give the same snapshot after every Announce. -/
theorem considerAll_refines (hr : h.Refines b) (history : List Announced)
    (hroom : ∀ p, p <+: history → ∀ c, b.considerAll p = .ok c →
      c.foreignClockRecords.records.length ≤ N) :
    ∀ p, p <+: history → ∃ c' c, h.considerAll p = .ok c' ∧ b.considerAll p = .ok c ∧
      c'.foreignClockRecords.records = c.foreignClockRecords.records ∧
      c'.snapshot = c.snapshot := by
  have hrun : ∀ p, p <+: history → ∃ c' c, h.considerAll p = .ok c' ∧ b.considerAll p = .ok c ∧
      c'.Refines c := by
    intro p
    induction p using List.reverseRecOn with
    | nil => exact fun _ => ⟨h, b, rfl, rfl, hr⟩
    | append_singleton p a ih =>
      intro hp
      obtain ⟨c', c, hc', hc, hrefines⟩ := ih ((List.prefix_append p [a]).trans hp)
      obtain ⟨d, hd⟩ := c.consider_returns a.source a.ds a.interval a.now
      have hlast : b.considerAll (p ++ [a]) = .ok d := by
        rw [considerAll, List.foldlM_append]
        exact Checked.bind_eq_ok.mpr ⟨c, hc, Checked.bind_eq_ok.mpr ⟨d, hd, rfl⟩⟩
      obtain ⟨d', hd', hrefines'⟩ := hrefines.consider a hd (hroom _ hp d hlast)
      refine ⟨d', d, ?_, hlast, hrefines'⟩
      rw [considerAll, List.foldlM_append]
      exact Checked.bind_eq_ok.mpr ⟨c', hc', Checked.bind_eq_ok.mpr ⟨d', hd', rfl⟩⟩
  intro p hp
  obtain ⟨c', c, hc', hc, hrefines⟩ := hrun p hp
  exact ⟨c', c, hc', hc, hrefines.records, hrefines.snapshot⟩

/-- A room that holds for each prefix of a history, as a computation. -/
theorem room_of_all {history : List Announced}
    (hall : history.inits.all fun p => match b.considerAll p with
      | .ok c => decide (c.foreignClockRecords.records.length ≤ N)
      | .error _ => true) :
    ∀ p, p <+: history → ∀ c, b.considerAll p = .ok c →
      c.foreignClockRecords.records.length ≤ N := by
  intro p hp c hc
  have hone := List.all_eq_true.mp hall p (List.mem_inits p history |>.mpr hp)
  rw [hc] at hone
  simpa using hone

/-- Two sources fill a store of two. -/
theorem considerAll_refines_two :
    ∃ c : BestForeignRecord (HeaplessForeignClockRecords 2),
      considerAll ⟨sourceOf 2, HeaplessForeignClockRecords.new (sourceOf 2)⟩ consistentHistory =
        .ok c ∧
      c.foreignClockRecords.records.length = 2 ∧
      c.snapshot = .ok (.qualified (announcedDs 1 128 1) (sourceOf 12) (sourceOf 2)) := by
  obtain ⟨c', c, hc', hc, hrecords, hsnapshot⟩ := considerAll_refines (N := 2)
    (h := ⟨sourceOf 2, HeaplessForeignClockRecords.new (sourceOf 2)⟩)
    (b := ⟨sourceOf 2, ForeignClockRecordsVec.new⟩) ⟨rfl, rfl⟩ consistentHistory
    (room_of_all (by decide +kernel)) consistentHistory (List.prefix_refl _)
  have hrun : ∃ d, considerAll ⟨sourceOf 2, ForeignClockRecordsVec.new⟩ consistentHistory = .ok d ∧
      d.foreignClockRecords.records.length = 2 ∧
      d.snapshot = .ok (.qualified (announcedDs 1 128 1) (sourceOf 12) (sourceOf 2)) :=
    ⟨_, rfl, by decide +kernel, by decide +kernel⟩
  obtain ⟨d, hd, hlength, hd'⟩ := hrun
  obtain rfl : c = d := Except.ok.inj (hc.symm.trans hd)
  exact ⟨c', hc', by rw [hrecords, hlength], hsnapshot.trans hd'⟩

end BestForeignRecord

end Refinement

section Eviction

namespace ForeignClockRecord

/-- The place of a record in the order of the records of a port. -/
def place (receiver : PortIdentity) (r : ForeignClockRecord) : TopologyDS :=
  .foreign r.foreignClockDs r.sourcePortIdentity receiver

/-- The records agree on each grandmaster, come from different sources, and none of them is from the
port itself. -/
structure Ordered (receiver : PortIdentity) (l : List ForeignClockRecord) : Prop where
  sources : Keyed.Unique sourcePortIdentity l
  agrees : ∀ a ∈ l, ∀ b ∈ l, a.foreignClockDs.Agrees b.foreignClockDs
  foreign : ∀ a ∈ l, a.sourcePortIdentity ≠ receiver

variable {receiver : PortIdentity} {l : List ForeignClockRecord} {a b : ForeignClockRecord}

theorem Ordered.isBetterThan_eq (h : Ordered receiver l) (ha : a ∈ l) (hb : b ∈ l) :
    a.isBetterThan receiver b =
      .ok (decide (TopologyDS.order (a.place receiver) (b.place receiver) = .lt)) :=
  TopologyDS.isBetter_eq_order (h.agrees a ha b hb) (h.foreign b hb)

theorem Ordered.eq_of_order (h : Ordered receiver l) (ha : a ∈ l) (hb : b ∈ l)
    (htie : TopologyDS.order (a.place receiver) (b.place receiver) = .eq) : a = b :=
  h.sources.eq_of_key ha hb (TopologyDS.eq_of_order htie).2.1

theorem Ordered.lt_of_not_lt (h : Ordered receiver l) (ha : a ∈ l) (hb : b ∈ l) (hne : a ≠ b)
    (hnot : TopologyDS.order (a.place receiver) (b.place receiver) ≠ .lt) :
    TopologyDS.order (b.place receiver) (a.place receiver) = .lt := by
  cases hc : TopologyDS.order (a.place receiver) (b.place receiver) with
  | lt => exact absurd hc hnot
  | eq => exact absurd (h.eq_of_order ha hb hc) hne
  | gt => exact Std.OrientedCmp.lt_of_gt hc

end ForeignClockRecord

open ForeignClockRecord

namespace HeaplessForeignClockRecords

variable {N : ℕ} {receiver : PortIdentity} {current : List ForeignClockRecord}
  {candidate : ForeignClockRecord}

theorem isLE_self (t : TopologyDS) : (TopologyDS.order t t).isLE := by
  have hself : TopologyDS.order t t = .eq := Std.ReflCmp.compare_self
  rw [hself]
  rfl

/-- What the scan knows after some entries: none of them is beaten by the candidate, or the index is
of one that is and that none of the beaten entries is worse than. -/
def Scanned (receiver : PortIdentity) (current : List ForeignClockRecord)
    (candidate : ForeignClockRecord) (entries : List (ForeignClockRecord × ℕ)) :
    Option ℕ → Prop
  | none => ∀ e ∈ entries,
      TopologyDS.order (candidate.place receiver) (e.1.place receiver) ≠ .lt
  | some w => ∃ worst, current[w]? = some worst ∧
      TopologyDS.order (candidate.place receiver) (worst.place receiver) = .lt ∧
      ∀ e ∈ entries, TopologyDS.order (candidate.place receiver) (e.1.place receiver) = .lt →
        (TopologyDS.order (e.1.place receiver) (worst.place receiver)).isLE

theorem scanWorst_scanned (h : Ordered receiver (candidate :: current))
    {entries : List (ForeignClockRecord × ℕ)} {worstIndex : Option ℕ}
    {entry : ForeignClockRecord × ℕ} (hentry : entry ∈ current.zipIdx)
    (hscanned : Scanned receiver current candidate entries worstIndex) :
    ∃ r, scanWorst current candidate receiver worstIndex entry = .ok r ∧
      Scanned receiver current candidate (entries ++ [entry]) r := by
  have hat := List.mem_zipIdx_iff_getElem?.mp hentry
  have hmem : entry.1 ∈ candidate :: current :=
    List.mem_cons_of_mem _ (List.mem_of_getElem? hat)
  unfold scanWorst
  rw [h.isBetterThan_eq List.mem_cons_self hmem, Checked.ok_bind]
  by_cases hbeaten : TopologyDS.order (candidate.place receiver) (entry.1.place receiver) = .lt
  · rw [if_pos (by simpa using hbeaten)]
    cases worstIndex with
    | none =>
      refine ⟨some entry.2, rfl, entry.1, hat, hbeaten, fun e he hlt => ?_⟩
      rcases List.mem_append.mp he with he | he
      · exact absurd hlt (hscanned e he)
      · rw [List.mem_singleton.mp he]
        exact isLE_self _
    | some w =>
      obtain ⟨worst, hworst, hlt, hleast⟩ := hscanned
      have hworstMem : worst ∈ candidate :: current :=
        List.mem_cons_of_mem _ (List.mem_of_getElem? hworst)
      have hrecord : recordAt current w = .ok worst := by simp [recordAt, hworst]
      simp only [hrecord, Checked.ok_bind, h.isBetterThan_eq hmem hworstMem]
      by_cases hbetter : TopologyDS.order (entry.1.place receiver) (worst.place receiver) = .lt
      · rw [if_pos (by simpa using hbetter)]
        refine ⟨some w, rfl, worst, hworst, hlt, fun e he hlt' => ?_⟩
        rcases List.mem_append.mp he with he | he
        · exact hleast e he hlt'
        · rw [List.mem_singleton.mp he, hbetter]
          rfl
      · rw [if_neg (by simpa using hbetter)]
        -- The entry is no better than the worst so far, so it is worse than all before it.
        have hge : (TopologyDS.order (worst.place receiver) (entry.1.place receiver)).isLE := by
          by_cases heq : entry.1 = worst
          · rw [heq]
            exact isLE_self _
          · rw [h.lt_of_not_lt hmem hworstMem heq hbetter]
            rfl
        refine ⟨some entry.2, rfl, entry.1, hat, hbeaten, fun e he hlt' => ?_⟩
        rcases List.mem_append.mp he with he | he
        · exact Std.TransCmp.isLE_trans (hleast e he hlt') hge
        · rw [List.mem_singleton.mp he]
          exact isLE_self _
  · rw [if_neg (by simpa using hbeaten)]
    refine ⟨worstIndex, rfl, ?_⟩
    cases worstIndex with
    | none =>
      intro e he
      rcases List.mem_append.mp he with he | he
      · exact hscanned e he
      · rw [List.mem_singleton.mp he]
        exact hbeaten
    | some w =>
      obtain ⟨worst, hworst, hlt, hleast⟩ := hscanned
      refine ⟨worst, hworst, hlt, fun e he hlt' => ?_⟩
      rcases List.mem_append.mp he with he | he
      · exact hleast e he hlt'
      · rw [List.mem_singleton.mp he] at hlt'
        exact absurd hlt' hbeaten

theorem candidateIndex_scanned (h : Ordered receiver (candidate :: current)) :
    ∃ r, candidateIndex current candidate receiver = .ok r ∧
      Scanned receiver current candidate current.zipIdx r := by
  apply Checked.foldlM_takes
  · intro e he
    simp at he
  · intro entries worstIndex entry hentry hscanned
    exact scanWorst_scanned h hentry hscanned

theorem candidate_worst (h : Ordered receiver (candidate :: current))
    (hscanned : Scanned receiver current candidate current.zipIdx none) :
    ∀ r ∈ current, TopologyDS.order (r.place receiver) (candidate.place receiver) = .lt := by
  intro r hr
  obtain ⟨i, hi⟩ := List.mem_iff_getElem?.mp hr
  have hne : candidate ≠ r := by
    rintro rfl
    exact (List.nodup_cons.mp h.sources.nodup).1 hr
  exact h.lt_of_not_lt List.mem_cons_self (List.mem_cons_of_mem _ hr) hne
    (hscanned (r, i) (List.mem_zipIdx_iff_getElem?.mpr hi))

/-- A beaten record that no beaten record is worse than is the worst of all. -/
theorem beaten_worst (h : Ordered receiver (candidate :: current)) {w : ℕ}
    {worst : ForeignClockRecord} (hworst : current[w]? = some worst)
    (hscanned : Scanned receiver current candidate current.zipIdx (some w)) :
    ∀ r ∈ candidate :: current, r ≠ worst →
      TopologyDS.order (r.place receiver) (worst.place receiver) = .lt := by
  obtain ⟨worst', hworst', hlt, hleast⟩ := hscanned
  obtain rfl : worst = worst' := Option.some.inj (hworst.symm.trans hworst')
  intro r hr hne
  have hmem : worst ∈ candidate :: current := List.mem_cons_of_mem _ (List.mem_of_getElem? hworst)
  rcases List.mem_cons.mp hr with rfl | hcurrent
  · exact hlt
  · obtain ⟨i, hi⟩ := List.mem_iff_getElem?.mp hcurrent
    by_cases hbeaten : TopologyDS.order (candidate.place receiver) (r.place receiver) = .lt
    · have hle := hleast (r, i) (List.mem_zipIdx_iff_getElem?.mpr hi) hbeaten
      cases hc : TopologyDS.order (r.place receiver) (worst.place receiver) with
      | lt => rfl
      | eq => exact absurd (h.eq_of_order hr hmem hc) hne
      | gt => simp [hc] at hle
    · have hne' : candidate ≠ r := by
        rintro rfl
        exact (List.nodup_cons.mp h.sources.nodup).1 hcurrent
      exact Std.TransCmp.lt_trans (h.lt_of_not_lt List.mem_cons_self hr hne' hbeaten) hlt

/-- A full store and a record of a new source, in an order without ties: remembering gives up the
worst of them and keeps the others as they are. -/
theorem remember_keeps_best {store : HeaplessForeignClockRecords N} {record : ForeignClockRecord}
    (hfull : store.records.length = N) (h : Ordered store.receiver (record :: store.records)) :
    ∃ store' evicted, store.remember record = .ok store' ∧ store'.records.length = N ∧
      (evicted :: store'.records).Perm (record :: store.records) ∧
      ∀ r ∈ store'.records, r.isBetterThan store.receiver evicted = .ok true := by
  have hsources := List.nodup_cons.mp h.sources
  have hnew : Keyed.lookup sourcePortIdentity record.sourcePortIdentity store.records = none := by
    rw [Keyed.lookup_eq_none]
    intro r hr hsame
    exact hsources.1 (hsame ▸ List.mem_map_of_mem hr)
  have hexisting : updateExisting store.records record = .ok none := by
    rcases updateExisting_spec store.records record with ⟨-, hnone⟩ | ⟨r, i, hi, hsame, -⟩
    · exact hnone
    · exact absurd hsame (Keyed.lookup_eq_none.mp hnew r (List.mem_of_getElem? hi))
  have hpush : store.push record = none := dif_neg (by omega)
  obtain ⟨index, hindex, hscanned⟩ := candidateIndex_scanned h
  rw [remember, hexisting, Checked.ok_bind]
  dsimp only
  rw [hpush]
  dsimp only
  rw [hindex, Checked.ok_bind]
  cases index with
  | none =>
    refine ⟨store, record, rfl, hfull, List.Perm.refl _, fun r hr => ?_⟩
    rw [h.isBetterThan_eq (List.mem_cons_of_mem _ hr) List.mem_cons_self,
      candidate_worst h hscanned r hr]
    rfl
  | some w =>
    obtain ⟨worst, hworst, hlt, hleast⟩ := id hscanned
    obtain ⟨hw, hget⟩ := List.getElem?_eq_some_iff.mp hworst
    have hlength : (store.records.eraseIdx w).length + 1 = N := by
      rw [List.length_eraseIdx_of_lt hw]
      omega
    have hroom : (store.records.eraseIdx w).length < N := by omega
    simp only [remove, if_pos hw, Checked.pure_eq, Checked.ok_bind, push, dif_pos hroom]
    have hperm : (worst :: (store.records.eraseIdx w ++ [record])).Perm
        (record :: store.records) := by
      have herase : (worst :: store.records.eraseIdx w).Perm store.records :=
        hget ▸ List.getElem_cons_eraseIdx_perm hw
      exact (List.perm_append_singleton record (worst :: store.records.eraseIdx w)).trans
        (herase.cons record)
    have hnodup : (worst :: (store.records.eraseIdx w ++ [record])).Nodup :=
      hperm.nodup_iff.mpr h.sources.nodup
    refine ⟨_, worst, rfl, by simpa using hlength, hperm, fun r hr => ?_⟩
    have hmem : r ∈ record :: store.records := hperm.subset (List.mem_cons_of_mem _ hr)
    have hne : r ≠ worst := by
      rintro rfl
      exact (List.nodup_cons.mp hnodup).1 hr
    rw [h.isBetterThan_eq hmem (List.mem_cons_of_mem _ (List.mem_of_getElem? hworst)),
      beaten_worst h hworst hscanned r hmem hne]
    rfl

theorem fullStore_capacity : [(announcedBy 11 1 128 5 0).record,
    (announcedBy 3 3 128 0 0).record].length ≤ 2 := le_rfl

/-- A store of two that holds a grandmaster at five steps and another one at none. -/
def fullStore : HeaplessForeignClockRecords 2 where
  records := [(announcedBy 11 1 128 5 0).record, (announcedBy 3 3 128 0 0).record]
  capacity := fullStore_capacity
  receiver := sourceOf 2

/-- A nearer source of the first grandmaster takes the place of the other one. -/
theorem remember_keeps_best_nearer :
    ∃ store' evicted, fullStore.remember (announcedBy 12 1 128 1 0).record = .ok store' ∧
      store'.records = [(announcedBy 11 1 128 5 0).record, (announcedBy 12 1 128 1 0).record] ∧
      ∀ r ∈ store'.records, r.isBetterThan (sourceOf 2) evicted = .ok true := by
  have hordered : Ordered fullStore.receiver
      ((announcedBy 12 1 128 1 0).record :: fullStore.records) := by
    constructor
    · unfold Keyed.Unique
      decide +kernel
    · decide +kernel
    · decide +kernel
  obtain ⟨store', evicted, hstore, -, -, hbetter⟩ := remember_keeps_best rfl hordered
  exact ⟨store', evicted, hstore, by cases hstore; rfl, hbetter⟩

end HeaplessForeignClockRecords

end Eviction

end Rptp
