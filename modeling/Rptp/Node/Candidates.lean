import Rptp.Clock.Order
import Rptp.Foreign.History
import Rptp.Node.Boundary

/-! # The candidates of the ports of a clock

A clock keeps the last report of each of its ports. Where the reports agree on each grandmaster and
no port hears itself, the comparison of reports is a strict total order, and the scan over the ports
finds the best report whatever the order of the calls was.
-/

namespace Rptp

open Machine Std

namespace BestForeignSnapshot

/-- The order of reports: a data set before none. -/
def order : BestForeignSnapshot → BestForeignSnapshot → Ordering
  | qualified ds sender receiver, qualified ds' sender' receiver' =>
    TopologyDS.order (.foreign ds sender receiver) (.foreign ds' sender' receiver')
  | qualified .., empty => .lt
  | empty, qualified .. => .gt
  | empty, empty => .eq

theorem order_swap (a b : BestForeignSnapshot) : a.order b = (b.order a).swap := by
  cases a with
  | empty => cases b <;> rfl
  | qualified ds sender receiver =>
    cases b with
    | empty => rfl
    | qualified ds' sender' receiver' =>
      exact (OrientedCmp.eq_swap : TopologyDS.order (.foreign ds sender receiver) _ = _)

theorem order_trans (a b c : BestForeignSnapshot) (hab : (a.order b).isLE)
    (hbc : (b.order c).isLE) : (a.order c).isLE := by
  cases a with
  | empty =>
    cases b with
    | empty => exact hbc
    | qualified ds sender receiver => cases hab
  | qualified ds sender receiver =>
    cases c with
    | empty => rfl
    | qualified ds' sender' receiver' =>
      cases b with
      | empty => cases hbc
      | qualified ds'' sender'' receiver'' =>
        exact (TransCmp.isLE_trans hab hbc : (TopologyDS.order (.foreign ds sender receiver)
          (.foreign ds' sender' receiver')).isLE)

instance : TransCmp order where
  eq_swap {a b} := order_swap a b
  isLE_trans {a b c} hab hbc := order_trans a b c hab hbc

theorem isBetter_returns (a b : BestForeignSnapshot) :
    ∃ r, a.isBetterOrBetterByTopology b = .ok r := by
  cases a with
  | empty => cases b <;> exact ⟨_, rfl⟩
  | qualified ds sender receiver =>
    cases b with
    | empty => exact ⟨_, rfl⟩
    | qualified ds' sender' receiver' => exact TopologyDS.isBetterOrBetterByTopology_returns _ _

end BestForeignSnapshot

/-- The last reports of the ports of one clock: each was received on the reporting port, from
another one, and those of one grandmaster agree on it. -/
structure ConsistentReports (clock : ClockIdentity) (report : PortNumber → BestForeignSnapshot) :
    Prop where
  received : ∀ port ds sender receiver, report port = .qualified ds sender receiver →
    receiver = ⟨clock, port⟩
  foreign : ∀ port ds sender receiver, report port = .qualified ds sender receiver →
    sender ≠ receiver
  agrees : ∀ port port' ds ds' sender sender' receiver receiver',
    report port = .qualified ds sender receiver → report port' = .qualified ds' sender' receiver' →
    ds.Agrees ds'

namespace ConsistentReports

variable {clock : ClockIdentity} {report : PortNumber → BestForeignSnapshot}

theorem isBetter_eq (h : ConsistentReports clock report) (port port' : PortNumber) :
    (report port).isBetterOrBetterByTopology (report port') =
      .ok (decide ((report port).order (report port') = .lt)) := by
  cases ha : report port with
  | empty => cases hb : report port' <;> rfl
  | qualified ds sender receiver =>
    cases hb : report port' with
    | empty => rfl
    | qualified ds' sender' receiver' =>
      exact TopologyDS.isBetter_eq_order (h.agrees port port' _ _ _ _ _ _ ha hb)
        (h.foreign port' _ _ _ hb)

theorem eq_of_order (h : ConsistentReports clock report) (port port' : PortNumber)
    (heq : (report port).order (report port') = .eq) : report port = report port' := by
  cases ha : report port with
  | empty =>
    cases hb : report port' with
    | empty => rfl
    | qualified ds' sender' receiver' =>
      rw [ha, hb] at heq
      cases heq
  | qualified ds sender receiver =>
    cases hb : report port' with
    | empty =>
      rw [ha, hb] at heq
      cases heq
    | qualified ds' sender' receiver' =>
      rw [ha, hb] at heq
      have hnumber : receiver.portNumber = receiver'.portNumber := (TopologyDS.eq_of_order heq).2.2
      rw [h.received port _ _ _ ha, h.received port' _ _ _ hb] at hnumber
      obtain rfl : port = port' := hnumber
      exact ha.symm.trans hb

/-- The comparison is a strict total order on the reports. -/
theorem isStrictTotalOrder (h : ConsistentReports clock report) :
    IsStrictTotalOrder {e // e ≠ .empty ∧ ∃ port, report port = e}
      (fun a b => a.1.isBetterOrBetterByTopology b.1 = .ok true) := by
  have hlt : ∀ port port', (report port).isBetterOrBetterByTopology (report port') = .ok true ↔
      (report port).order (report port') = .lt := by
    intro port port'
    rw [h.isBetter_eq]
    simp
  refine { trichotomous := ?_, irrefl := ?_, trans := ?_ }
  · intro ⟨_, _, port, ha⟩ ⟨_, _, port', hb⟩
    subst ha hb
    intro hab hba
    rw [hlt] at hab hba
    apply Subtype.ext
    apply h.eq_of_order port port'
    cases hc : (report port).order (report port') with
    | lt => exact absurd hc hab
    | eq => rfl
    | gt => exact absurd (OrientedCmp.lt_of_gt hc) hba
  · intro ⟨_, _, port, ha⟩
    subst ha
    intro hlt'
    rw [hlt] at hlt'
    have hself : (report port).order (report port) = .eq := ReflCmp.compare_self
    rw [hself] at hlt'
    cases hlt'
  · intro ⟨_, _, a, ha⟩ ⟨_, _, b, hb⟩ ⟨_, _, c, hc⟩
    subst ha hb hc
    intro hab hbc
    rw [hlt] at hab hbc ⊢
    exact TransCmp.lt_trans hab hbc

end ConsistentReports

namespace MultiPortForeignCandidates

/-- What the store holds for a port. No entry means no data set. -/
def candidate (c : MultiPortForeignCandidates) (port : PortNumber) : BestForeignSnapshot :=
  ((Keyed.lookup Prod.fst port c.byPort).map Prod.snd).getD .empty

/-- The entries are in the order of the port numbers, and each has a data set. -/
structure Valid (c : MultiPortForeignCandidates) : Prop where
  sorted : c.byPort.Pairwise fun a b => compare a.1 b.1 = .lt
  qualified : ∀ entry ∈ c.byPort, entry.2 ≠ .empty

variable {c : MultiPortForeignCandidates} {port : PortNumber} {snapshot : BestForeignSnapshot}
  {l : List (PortNumber × BestForeignSnapshot)}

theorem Valid.unique (h : c.Valid) : Keyed.Unique Prod.fst c.byPort := by
  unfold Keyed.Unique List.Nodup
  rw [List.pairwise_map]
  refine h.sorted.imp fun {a b} hlt heq => ?_
  have hself : compare a.1 a.1 = .eq := ReflCmp.compare_self
  rw [← heq, hself] at hlt
  cases hlt

theorem Valid.candidate_of_mem (h : c.Valid) (hmem : (port, snapshot) ∈ c.byPort) :
    c.candidate port = snapshot := by
  rw [candidate, h.unique.lookup_eq_some.mpr ⟨hmem, rfl⟩]
  rfl

theorem mem_of_candidate (hport : c.candidate port ≠ .empty) :
    (port, c.candidate port) ∈ c.byPort := by
  unfold candidate at hport ⊢
  cases hl : Keyed.lookup Prod.fst port c.byPort with
  | none =>
    rw [hl] at hport
    exact absurd rfl hport
  | some entry =>
    obtain ⟨hmem, rfl⟩ := Keyed.mem_of_lookup hl
    exact hmem

theorem mem_insert {entry : PortNumber × BestForeignSnapshot} (h : entry ∈ insert port snapshot l) :
    entry = (port, snapshot) ∨ entry ∈ l := by
  induction l with
  | nil => exact .inl (List.mem_singleton.mp h)
  | cons head l ih =>
    unfold insert at h
    cases hc : compare port head.1 with
    | lt =>
      rw [hc] at h
      exact List.mem_cons.mp h
    | eq =>
      rw [hc] at h
      rcases List.mem_cons.mp h with h | h
      · exact .inl h
      · exact .inr (List.mem_cons_of_mem _ h)
    | gt =>
      rw [hc] at h
      rcases List.mem_cons.mp h with h | h
      · exact .inr (h ▸ List.mem_cons_self)
      · rcases ih h with h | h
        · exact .inl h
        · exact .inr (List.mem_cons_of_mem _ h)

theorem insert_sorted (h : l.Pairwise fun a b => compare a.1 b.1 = .lt) :
    (insert port snapshot l).Pairwise fun a b => compare a.1 b.1 = .lt := by
  induction l with
  | nil => exact List.pairwise_singleton _ _
  | cons head l ih =>
    obtain ⟨hhead, hl⟩ := List.pairwise_cons.mp h
    unfold insert
    cases hc : compare port head.1 with
    | lt =>
      refine List.pairwise_cons.mpr ⟨fun entry hentry => ?_, h⟩
      rcases List.mem_cons.mp hentry with rfl | hentry
      · exact hc
      · exact TransCmp.lt_trans hc (hhead entry hentry)
    | eq =>
      obtain rfl : port = head.1 := LawfulEqCmp.eq_of_compare hc
      exact List.pairwise_cons.mpr ⟨hhead, hl⟩
    | gt =>
      refine List.pairwise_cons.mpr ⟨fun entry hentry => ?_, ih hl⟩
      rcases mem_insert hentry with rfl | hentry
      · exact OrientedCmp.lt_of_gt hc
      · exact hhead entry hentry

theorem lookup_insert (p : PortNumber) : Keyed.lookup Prod.fst p (insert port snapshot l) =
    if port = p then some (port, snapshot) else Keyed.lookup Prod.fst p l := by
  induction l with
  | nil => exact Keyed.lookup_cons
  | cons head l ih =>
    unfold insert
    cases hc : compare port head.1 with
    | lt => exact Keyed.lookup_cons
    | eq =>
      obtain rfl : port = head.1 := LawfulEqCmp.eq_of_compare hc
      simp only [Keyed.lookup_cons]
      split_ifs
      · rfl
      · rfl
    | gt =>
      have hne : head.1 ≠ port := by
        rintro rfl
        have hself : compare head.1 head.1 = .eq := ReflCmp.compare_self
        rw [hself] at hc
        cases hc
      dsimp only
      rw [Keyed.lookup_cons, Keyed.lookup_cons, ih]
      by_cases hp : port = p
      · subst hp
        rw [if_neg hne, if_pos rfl, if_pos rfl]
      · rw [if_neg hp, if_neg hp]

theorem valid_new : new.Valid := ⟨List.Pairwise.nil, by simp [new]⟩

theorem Valid.remember (h : c.Valid) (port : PortNumber) (snapshot : BestForeignSnapshot) :
    (c.remember port snapshot).Valid := by
  cases snapshot with
  | empty =>
    exact ⟨h.sorted.filter _, fun entry hentry => h.qualified entry (List.mem_filter.mp hentry).1⟩
  | qualified ds sender receiver =>
    refine ⟨insert_sorted h.sorted, fun entry hentry => ?_⟩
    rcases mem_insert hentry with rfl | hentry
    · exact fun hempty => by cases hempty
    · exact h.qualified entry hentry

theorem Valid.candidate_remember (h : c.Valid) (port p : PortNumber)
    (snapshot : BestForeignSnapshot) :
    (c.remember port snapshot).candidate p = if port = p then snapshot else c.candidate p := by
  cases snapshot with
  | qualified ds sender receiver =>
    rw [candidate, MultiPortForeignCandidates.remember, lookup_insert]
    split_ifs
    · rfl
    · rfl
  | empty =>
    have hfilter : Keyed.lookup Prod.fst p (c.remember port .empty).byPort =
        (Keyed.lookup Prod.fst p c.byPort).filter fun entry => decide (entry.1 ≠ port) :=
      Keyed.lookup_filter h.unique _
    rw [candidate, hfilter, candidate]
    cases hl : Keyed.lookup Prod.fst p c.byPort with
    | none => simp
    | some entry =>
      obtain ⟨-, rfl⟩ := Keyed.mem_of_lookup hl
      by_cases hp : port = entry.1
      · simp [Option.filter, hp]
      · have hne : ¬ entry.1 = port := fun heq => hp heq.symm
        simp [Option.filter, hp, hne]

/-- The reports with no data set in front. -/
def scanned (c : MultiPortForeignCandidates) : List BestForeignSnapshot :=
  .empty :: c.byPort.map Prod.snd

theorem best_scan (c : MultiPortForeignCandidates) :
    c.best = (c.byPort.map Prod.snd).foldlM
      (keepBetter BestForeignSnapshot.isBetterOrBetterByTopology) .empty := by
  rw [List.foldlM_map]
  rfl

theorem Valid.scanned_cases (h : c.Valid) {e : BestForeignSnapshot} (he : e ∈ c.scanned) :
    e = .empty ∨ ∃ port, c.candidate port = e := by
  rcases List.mem_cons.mp he with he | he
  · exact .inl he
  · obtain ⟨entry, hentry, rfl⟩ := List.mem_map.mp he
    exact .inr ⟨entry.1, h.candidate_of_mem hentry⟩

theorem candidate_scanned (c : MultiPortForeignCandidates) (port : PortNumber) :
    c.candidate port ∈ c.scanned := by
  by_cases hport : c.candidate port = .empty
  · rw [hport]
    exact List.mem_cons_self
  · exact List.mem_cons_of_mem _ (List.mem_map.mpr ⟨_, mem_of_candidate hport, rfl⟩)

/-- The scan over the ports finds the least candidate. -/
theorem Valid.best_eq (h : c.Valid) {clock : ClockIdentity}
    (hreports : ConsistentReports clock c.candidate) :
    ∃ e, c.best = .ok e ∧ (∃ port, c.candidate port = e) ∧
      ∀ port, c.candidate port ≠ e → e.order (c.candidate port) = .lt := by
  have hbetter : ∀ a ∈ c.scanned, ∀ b ∈ c.scanned,
      a.isBetterOrBetterByTopology b = .ok (decide (a.order b = .lt)) := by
    intro a ha b hb
    rcases h.scanned_cases ha with rfl | ⟨port, rfl⟩
    · cases b <;> rfl
    · rcases h.scanned_cases hb with rfl | ⟨port', rfl⟩
      · cases c.candidate port <;> rfl
      · exact hreports.isBetter_eq port port'
  have heq : ∀ a ∈ c.scanned, ∀ b ∈ c.scanned, a.order b = .eq → a = b := by
    intro a ha b hb hab
    rcases h.scanned_cases ha with rfl | ⟨port, rfl⟩
    · cases b with
      | empty => rfl
      | qualified ds sender receiver => cases hab
    · rcases h.scanned_cases hb with rfl | ⟨port', rfl⟩
      · cases hport : c.candidate port with
        | empty => rfl
        | qualified ds sender receiver =>
          rw [hport] at hab
          cases hab
      · exact hreports.eq_of_order port port' hab
  obtain ⟨e, he, hleast⟩ := exists_least_of_mem (List.cons_ne_nil _ _) heq
  have hfound : c.best = .ok e := by
    rw [best_scan]
    exact foldlM_keepBetter BestForeignSnapshot.isBetter_returns
      (beats_of_least he hleast hbetter) he
  have hports : ∀ port, c.candidate port ≠ e → e.order (c.candidate port) = .lt :=
    fun port hne => hleast _ (c.candidate_scanned port) hne
  refine ⟨e, hfound, ?_, hports⟩
  rcases h.scanned_cases he with rfl | hport
  · refine ⟨⟨0⟩, ?_⟩
    by_contra hne
    have hlt := hports ⟨0⟩ hne
    cases hport : c.candidate ⟨0⟩ with
    | empty => exact hne hport
    | qualified ds sender receiver =>
      rw [hport] at hlt
      cases hlt
  · exact hport

end MultiPortForeignCandidates

/-- The last report of a port, if there was one. -/
def lastReport (calls : List (PortNumber × BestForeignSnapshot)) (port : PortNumber) :
    BestForeignSnapshot :=
  calls.foldl (fun last call => if call.1 = port then call.2 else last) .empty

/-- The store after the calls. -/
def rememberAll (calls : List (PortNumber × BestForeignSnapshot)) : MultiPortForeignCandidates :=
  calls.foldl (fun c call => c.remember call.1 call.2) .new

/-- The store holds the last report of each port. -/
theorem rememberAll_candidate (calls : List (PortNumber × BestForeignSnapshot)) :
    (rememberAll calls).Valid ∧ (rememberAll calls).candidate = lastReport calls := by
  induction calls using List.reverseRecOn with
  | nil => exact ⟨MultiPortForeignCandidates.valid_new, rfl⟩
  | append_singleton calls call ih =>
    obtain ⟨hvalid, hcandidate⟩ := ih
    have hstore : rememberAll (calls ++ [call]) = (rememberAll calls).remember call.1 call.2 := by
      rw [rememberAll, List.foldl_append]
      rfl
    rw [hstore]
    refine ⟨hvalid.remember _ _, ?_⟩
    funext port
    rw [hvalid.candidate_remember, hcandidate, lastReport, lastReport, List.foldl_append]
    rfl

/-- On consistent last reports of the ports of a clock the comparison is a strict total order. After
any calls with these last reports the best candidate is the one report that is better than all
others, and it is empty exactly when there is none. -/
theorem candidates_best (clock : ClockIdentity) (report : PortNumber → BestForeignSnapshot)
    (h : ConsistentReports clock report) :
    IsStrictTotalOrder {e // e ≠ .empty ∧ ∃ port, report port = e}
        (fun a b => a.1.isBetterOrBetterByTopology b.1 = .ok true) ∧
      ∀ calls, lastReport calls = report → ∃ e,
        (∀ calls', lastReport calls' = report → (rememberAll calls').best = .ok e) ∧
        (∃ port, report port = e) ∧
        (∀ port, report port ≠ e → e.isBetterOrBetterByTopology (report port) = .ok true) ∧
        (e = .empty ↔ ∀ port, report port = .empty) := by
  refine ⟨h.isStrictTotalOrder, fun calls hcalls => ?_⟩
  obtain ⟨hvalid, hcandidate⟩ := rememberAll_candidate calls
  have hreports : ConsistentReports clock (rememberAll calls).candidate := by
    rw [hcandidate, hcalls]
    exact h
  obtain ⟨e, -, ⟨best, hbest⟩, hleast⟩ := hvalid.best_eq hreports
  rw [hcandidate, hcalls] at hbest hleast
  refine ⟨e, fun calls' hcalls' => ?_, ⟨best, hbest⟩, fun port hne => ?_, ?_⟩
  · obtain ⟨hvalid', hcandidate'⟩ := rememberAll_candidate calls'
    have hreports' : ConsistentReports clock (rememberAll calls').candidate := by
      rw [hcandidate', hcalls']
      exact h
    obtain ⟨e', hfound, ⟨best', hbest'⟩, hleast'⟩ := hvalid'.best_eq hreports'
    rw [hcandidate', hcalls'] at hbest' hleast'
    -- Two least reports are one.
    have heq : e' = e := by
      by_contra hne
      have hlt := hleast best' (by rw [hbest']; exact hne)
      have hgt := hleast' best (by rw [hbest]; exact Ne.symm hne)
      rw [hbest'] at hlt
      rw [hbest, OrientedCmp.gt_of_lt hlt] at hgt
      cases hgt
    rw [hfound, heq]
  · rw [← hbest] at hne ⊢
    have hlt := hleast port (by rw [← hbest]; exact hne)
    rw [h.isBetter_eq best port]
    rw [← hbest] at hlt
    rw [hlt]
    rfl
  · constructor
    · rintro rfl port
      by_contra hne
      have hlt := hleast port hne
      cases hport : report port with
      | empty => exact hne hport
      | qualified ds sender receiver =>
        rw [hport] at hlt
        cases hlt
    · intro hempty
      rw [← hbest]
      exact hempty best

/-- The second clock hears of the first one on two ports, five steps and one step away. -/
def twoReports : List (PortNumber × BestForeignSnapshot) :=
  [(⟨1⟩, .qualified (announcedDs 1 128 5) (sourceOf 11) ⟨(sourceOf 2).clockIdentity, ⟨1⟩⟩),
    (⟨2⟩, .qualified (announcedDs 1 128 1) (sourceOf 12) ⟨(sourceOf 2).clockIdentity, ⟨2⟩⟩)]

theorem lastReport_twoReports (port : PortNumber) (ds : ClockDS) (sender receiver : PortIdentity)
    (h : lastReport twoReports port = .qualified ds sender receiver) :
    (port = ⟨2⟩ ∧ ds = announcedDs 1 128 1 ∧ sender = sourceOf 12 ∧
      receiver = ⟨(sourceOf 2).clockIdentity, ⟨2⟩⟩) ∨
    (port = ⟨1⟩ ∧ ds = announcedDs 1 128 5 ∧ sender = sourceOf 11 ∧
      receiver = ⟨(sourceOf 2).clockIdentity, ⟨1⟩⟩) := by
  simp only [lastReport, twoReports, List.foldl_cons, List.foldl_nil] at h
  split_ifs at h with h2 h1
  · cases h
    exact .inl ⟨h2.symm, rfl, rfl, rfl⟩
  · cases h
    exact .inr ⟨h1.symm, rfl, rfl, rfl⟩

theorem twoReports_consistent :
    ConsistentReports (sourceOf 2).clockIdentity (lastReport twoReports) where
  received port ds sender receiver h := by
    rcases lastReport_twoReports port ds sender receiver h with ⟨rfl, -, -, rfl⟩ | ⟨rfl, -, -, rfl⟩
    · rfl
    · rfl
  foreign port ds sender receiver h := by
    rcases lastReport_twoReports port ds sender receiver h with ⟨-, -, rfl, rfl⟩ | ⟨-, -, rfl, rfl⟩
    · decide
    · decide
  agrees port port' ds ds' sender sender' receiver receiver' h h' := by
    rcases lastReport_twoReports port ds sender receiver h with ⟨-, rfl, -⟩ | ⟨-, rfl, -⟩
    · rcases lastReport_twoReports port' ds' sender' receiver' h' with ⟨-, rfl, -⟩ | ⟨-, rfl, -⟩
      · decide
      · decide
    · rcases lastReport_twoReports port' ds' sender' receiver' h' with ⟨-, rfl, -⟩ | ⟨-, rfl, -⟩
      · decide
      · decide

/-- The nearer one is the best candidate. -/
theorem candidates_best_nearer :
    ∃ e, (rememberAll twoReports).best = .ok e ∧ e = lastReport twoReports ⟨2⟩ := by
  obtain ⟨-, hcalls⟩ := candidates_best _ _ twoReports_consistent
  obtain ⟨e, hbest, -, -, -⟩ := hcalls twoReports rfl
  have hfound : (rememberAll twoReports).best = .ok (lastReport twoReports ⟨2⟩) := by decide +kernel
  exact ⟨e, hbest twoReports rfl, Except.ok.inj ((hbest twoReports rfl).symm.trans hfound)⟩

end Rptp
