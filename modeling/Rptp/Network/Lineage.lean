import Rptp.Bmca.Agreement
import Rptp.Clock.Order
import Rptp.Foreign.Best
import Rptp.Network.Informed
import Rptp.Node.Authoritative

/-! # Where the data sets on a network come from

On a network of clocks, whatever becomes of their datagrams, every data set that is announced is the
one of a clock of the network, with as many steps added as there are hops from it to the announcing
clock. Nobody follows, yields to or passes on a clock that is not better than itself.
-/

namespace Rptp

open Machine

variable {ι F R : Type}

/-- The clock `i` hears of `g` over `k` hops. -/
inductive Hops (hears : ι → ι → Prop) : ℕ → ι → ι → Prop
  | here (i : ι) : Hops hears 0 i i
  | hop {k : ℕ} {i j g : ι} (h : hears i j) (rest : Hops hears k j g) : Hops hears (k + 1) i g

/-- The data set of a clock as it is announced `k` hops away. -/
def ClockDS.hopsAway (ds : ClockDS) (k : ℕ) : ClockDS :=
  { ds with stepsRemoved := ⟨UInt16.ofNat (saturating 16 (ds.stepsRemoved.value.toNat + k))⟩ }

namespace ClockDS

theorem hopsAway_steps (ds : ClockDS) (k : ℕ) :
    (ds.hopsAway k).stepsRemoved.value.toNat = min (ds.stepsRemoved.value.toNat + k) (2 ^ 16 - 1) := by
  have hlt : min (ds.stepsRemoved.value.toNat + k) (2 ^ 16 - 1) < 2 ^ 16 := by omega
  exact UInt16.toNat_ofNat_of_lt' hlt

theorem hopsAway_zero (ds : ClockDS) : ds.hopsAway 0 = ds := by
  have hsteps : (ds.hopsAway 0).stepsRemoved = ds.stepsRemoved := by
    have hlt := ds.stepsRemoved.value.toNat_lt
    have hvalue := ds.hopsAway_steps 0
    have hsame : (ds.hopsAway 0).stepsRemoved.value = ds.stepsRemoved.value :=
      UInt16.toNat_inj.mp (by omega)
    exact congrArg StepsRemoved.mk hsame
  exact congrArg (fun steps => { ds with stepsRemoved := steps }) hsteps

theorem hopsAway_succ (ds : ClockDS) (k : ℕ) : (ds.hopsAway k).withAddedStep = ds.hopsAway (k + 1) := by
  have hsum : saturating 16 ((ds.hopsAway k).stepsRemoved.value.toNat + 1) =
      saturating 16 (ds.stepsRemoved.value.toNat + (k + 1)) := by
    rw [hopsAway_steps]
    simp only [saturating]
    omega
  exact congrArg (fun n => { ds with stepsRemoved := ⟨UInt16.ofNat n⟩ }) hsum

end ClockDS

/-- The data set of a clock that comes back to it has more steps than its own. -/
theorem LocalDS.isBetter_of_returned {ds : ClockDS} {k : ℕ} {source receiver : PortIdentity}
    (hsteps : ds.stepsRemoved.value.toNat < 2 ^ 16 - 1) (hk : 0 < k) (hforeign : source ≠ receiver) :
    LocalDS.isBetterOrBetterByTopology ds (.qualified (ds.hopsAway k) source receiver) =
      .ok (.ok ds) := by
  have hmore : ds.stepsRemoved.value < (ds.hopsAway k).stepsRemoved.value := by
    have haway := ds.hopsAway_steps k
    apply UInt16.lt_iff_toNat_lt.mpr
    omega
  have hcompare : compare ds.stepsRemoved.value (ds.hopsAway k).stepsRemoved.value = .lt :=
    if_pos hmore
  have hbetter : (LocalDS.topology ds).isBetterOrBetterByTopology
      (.foreign (ds.hopsAway k) source receiver) = .ok true := by
    rw [TopologyDS.isBetter_of_identity_eq (a := topology ds)
      (b := .foreign (ds.hopsAway k) source receiver) rfl hforeign, TopologyDS.tieBreak_eq]
    change Except.ok (decide ((compare ds.stepsRemoved.value
      (ds.hopsAway k).stepsRemoved.value).then _ = .lt)) = _
    rw [hcompare]
    rfl
  simp [LocalDS.isBetterOrBetterByTopology, hbetter]

namespace BestForeignRecord

variable [ForeignClockRecords R] {b : BestForeignRecord R}

theorem Consistent.snapshot_least (h : b.Consistent)
    (hunique : Keyed.Unique ForeignClockRecord.sourcePortIdentity
      (ForeignClockRecords.iter b.foreignClockRecords)) :
    (b.qualified = [] ∧ b.snapshot = .ok .empty) ∨
      ∃ best ∈ b.qualified, b.snapshot = .ok (best.snapshot b.receiver) ∧
        ∀ q ∈ b.qualified, q ≠ best → recordOrder b.receiver best q = .lt := by
  obtain hnil | hne := eq_or_ne b.qualified []
  · exact .inl ⟨hnil, by rw [snapshot, hnil]; rfl⟩
  · have heq : ∀ p ∈ b.qualified, ∀ q ∈ b.qualified, recordOrder b.receiver p q = .eq → p = q := by
      intro p hp q hq hpq
      obtain ⟨r, hr, -, rfl⟩ := mem_qualified.mp hp
      obtain ⟨t, ht, -, rfl⟩ := mem_qualified.mp hq
      have hsource : r.sourcePortIdentity = t.sourcePortIdentity := (TopologyDS.eq_of_order hpq).2.1
      obtain rfl : r = t := hunique.eq_of_key hr ht hsource
      rfl
    obtain ⟨best, hbest, hselect, hleast⟩ := selectBest_least (isBetterThan_returns b.receiver) hne
      (fun p hp q hq => h.isBetterThan_eq hp hq) heq
    exact .inr ⟨best, hbest, by rw [snapshot, hselect]; rfl, hleast⟩

end BestForeignRecord

section Network

variable (own : ι → ClockDS) (numbers : ι → PortNumber → Prop) (hears : ι → ι → Prop)
  (tells : ι → PortIdentity → ClockDS → Prop)

/-- A clock is told what the clocks that it hears may say. -/
def standpoint (i : ι) : Standpoint where
  own := own i
  Port := numbers i
  Told source ds := ∃ j, hears i j ∧ tells j source ds

variable {own numbers hears tells}

theorem datagram_told {i : ι} {l : List (Effect F)}
    (hcanonical : ∀ source ds, tells i source ds → ds.Canonical)
    (htells : ∀ source ds, (standpoint own numbers hears tells i).IsPort source →
      Announceable (standpoint own numbers hears tells i) ds → tells i source ds)
    (hl : ∀ e ∈ l, e.Told (standpoint own numbers hears tells i)) :
    ∀ d ∈ datagrams l, d.Told (tells i) := by
  intro d hd
  obtain ⟨e, he, hde⟩ := List.mem_filterMap.mp hd
  have htold := hl e he
  cases e
  case sendEvent msg buf result =>
    cases result with
    | ok u =>
      cases hde
      trivial
    | error e => cases hde
  case sendGeneral msg buf result =>
    cases result with
    | ok u =>
      cases hde
      obtain ⟨hmsg, domain, source, hsource, rfl⟩ := htold
      have hcarries : Carries GeneralMessage.new (msg.toWire (.new domain source)) domain source
          msg := by
        apply generalMessage_carries
        cases msg with
        | announce msg => exact hcanonical source _ (htells source _ hsource hmsg)
        | followUp msg => trivial
        | delayResp msg => trivial
      intro hf announce hannounce
      rw [hcarries.body] at hannounce
      cases hannounce
      rw [hcarries.source]
      exact htells source _ hsource hmsg
    | error e => cases hde
  all_goals cases hde

variable [DecidableEq ι] [DecidableRel hears] [F64 F] [ForeignClockRecords R]
  [FaithfulForeignClockRecords R]

/-- If clocks that are told nothing but what the others may say announce nothing but what they may
say, then it is so in every run of the network. -/
theorem network_informed (hcanonical : ∀ i source ds, tells i source ds → ds.Canonical)
    (htells : ∀ i source ds, (standpoint own numbers hears tells i).IsPort source →
      Announceable (standpoint own numbers hears tells i) ds → tells i source ds)
    {nodes : ι → ClockNode F R} (hfresh : ∀ i, (nodes i).Fresh (own i))
    (hnumbers : ∀ i n, (nodes i).Numbers n → numbers i n)
    {occurrences : List (ι × ClockInput R ℕ)} {w : Pool ι (ClockWorld F R) Datagram}
    {l : List (Effect F)}
    (h : (Pool.run (network hears) (networkOf nodes) occurrences).Returns w l) :
    w.Guarantees (fun i world => world.Informed (standpoint own numbers hears tells i))
      fun i d => d.Told (tells i) := by
  refine Pool.Guarantees.run (A := fun i input => input.Told (standpoint own numbers hears tells i).Told)
    ?_ ?_ ⟨fun i => ?_, by simp [networkOf]⟩ h
  · intro i sent o input hsent hread
    cases o with
    | datagram index env timestamp now number =>
      obtain ⟨d, hfound, rfl⟩ := Option.map_eq_some_iff.mp hread
      obtain ⟨p, hp, rfl⟩ := Option.map_eq_some_iff.mp hfound
      obtain ⟨hp, hhears⟩ := Option.filter_eq_some_iff.mp hp
      have htold := hsent p (List.mem_of_getElem? hp)
      obtain ⟨j, d⟩ := p
      cases d with
      | event buf => trivial
      | general buf =>
        intro hf msg hmsg
        exact ⟨j, of_decide_eq_true hhears, htold hf msg hmsg⟩
    | create records hrecords =>
      cases hread
      trivial
    | system index env msg hmsg =>
      cases hread
      trivial
    | notification index env number =>
      cases hread
      trivial
  · intro i world input world' l hworld hin hstep
    obtain ⟨hinformed, hl⟩ := hworld.step hin hstep
    exact ⟨hinformed, datagram_told (hcanonical i) (htells i) hl⟩
  · exact ClockWorld.informed_start (hfresh i) (hnumbers i)

/-- Clocks of different identities that do not hear themselves, each with a data set of its own. -/
structure Distinct (own : ι → ClockDS) (hears : ι → ι → Prop) : Prop where
  canonical : ∀ i, (own i).Canonical
  identity : ∀ i j, (own i).identity = (own j).identity → i = j
  steps : ∀ i, (own i).stepsRemoved.value.toNat < 2 ^ 16 - 1
  deaf : ∀ i, ¬ hears i i

/-- A clock that is better than `i`, `k` hops away from it. -/
def BetterAt (own : ι → ClockDS) (hears : ι → ι → Prop) (i : ι) (k : ℕ) (g : ι) : Prop :=
  Hops hears k i g ∧ ClockDS.lexicographic (own g) (own i) = .lt

/-- What a clock may announce: its own data set, or the one of a better clock from as many hops away
as that is. -/
def Lineage (own : ι → ClockDS) (hears : ι → ι → Prop) (i : ι) (source : PortIdentity)
    (ds : ClockDS) : Prop :=
  source.clockIdentity = (own i).identity ∧
    (ds = own i ∨ ∃ k g, BetterAt own hears i k g ∧ ds = (own g).hopsAway k)

omit [DecidableEq ι] [DecidableRel hears] in
theorem Lineage.hops {i : ι} {source : PortIdentity} {ds : ClockDS}
    (h : Lineage own hears i source ds) : ∃ k g, Hops hears k i g ∧ ds = (own g).hopsAway k := by
  obtain ⟨-, rfl | ⟨k, g, ⟨hg, -⟩, rfl⟩⟩ := h
  · exact ⟨0, i, .here i, (ClockDS.hopsAway_zero _).symm⟩
  · exact ⟨k, g, hg, rfl⟩

omit [DecidableEq ι] [DecidableRel hears] in
/-- A clock that is outdone is outdone by a better clock, never by its own data set. -/
theorem outdone_better (hnet : Distinct own hears) {i : ι} {source : PortIdentity} {ds : ClockDS}
    (h : Outdone (standpoint own numbers hears (Lineage own hears) i) source ds) :
    ∃ j k g, hears i j ∧ source.clockIdentity = (own j).identity ∧ Hops hears k j g ∧
      BetterAt own hears i (k + 1) g ∧ ds = (own g).hopsAway k := by
  obtain ⟨⟨j, hj, hlineage⟩, receiver, ⟨hreceiver, -⟩, hlocal⟩ := h
  have hsource := hlineage.1
  obtain ⟨k, g, hg, rfl⟩ := hlineage.hops
  refine ⟨j, k, g, hj, hsource, hg, ⟨.hop hj hg, ?_⟩, rfl⟩
  by_cases hgi : g = i
  · subst hgi
    exfalso
    -- The data set came back: it was received from another clock, and it has more steps now.
    have hji : j ≠ g := fun hji => hnet.deaf g (hji ▸ hj)
    have hk : 0 < k := by
      cases hg with
      | here => exact absurd rfl hji
      | hop => exact Nat.succ_pos _
    have hforeign : source ≠ receiver := by
      rintro rfl
      exact hji (hnet.identity j g (hsource.symm.trans hreceiver))
    have hown := LocalDS.isBetter_of_returned (hnet.steps g) hk hforeign
    cases hlocal.symm.trans hown
  · have hne : (own i).identity ≠ ((own g).hopsAway k).identity := fun hid =>
      hgi (hnet.identity g i hid.symm)
    have hnot : ClockDS.lexicographic (own i) ((own g).hopsAway k) ≠ .lt := by
      intro hlt
      have hown := LocalDS.isBetter_of_identity_ne source receiver hne
      rw [if_pos hlt] at hown
      cases hlocal.symm.trans hown
    rcases ClockDS.compare_of_identity_ne hne with ⟨hlt, -⟩ | ⟨hgt, -⟩
    · exact absurd hlt hnot
    · exact Std.OrientedCmp.lt_of_gt hgt

omit [DecidableEq ι] [DecidableRel hears] in
theorem announceable_lineage (hnet : Distinct own hears) {i : ι} {ds : ClockDS}
    (h : Announceable (standpoint own numbers hears (Lineage own hears) i) ds) :
    ds = own i ∨ ∃ k g, BetterAt own hears i k g ∧ ds = (own g).hopsAway k := by
  rcases h with rfl | ⟨-, source, told, hout, rfl⟩
  · exact .inl rfl
  · obtain ⟨j, k, g, -, -, -, hbetter, rfl⟩ := outdone_better hnet hout
    exact .inr ⟨k + 1, g, hbetter, ClockDS.hopsAway_succ _ k⟩

variable {nodes : ι → ClockNode F R} {occurrences : List (ι × ClockInput R ℕ)}
  {w : Pool ι (ClockWorld F R) Datagram} {l : List (Effect F)}

/-- Every clock of a network of clocks is informed by their lineage. -/
theorem network_lineage (hnet : Distinct own hears) (hfresh : ∀ i, (nodes i).Fresh (own i))
    (h : (Pool.run (network hears) (networkOf nodes) occurrences).Returns w l) :
    w.Guarantees
      (fun i world => world.Informed (standpoint own (fun i => (nodes i).Numbers) hears
        (Lineage own hears) i))
      fun i d => d.Told (Lineage own hears i) := by
  refine network_informed ?_
    (fun i source ds hsource hds => ⟨hsource.1, announceable_lineage hnet hds⟩) hfresh
    (fun i n => id) h
  intro i source ds hlineage
  obtain ⟨k, g, -, rfl⟩ := hlineage.hops
  exact hnet.canonical g

/-- Whatever becomes of the datagrams of a network, every Announce on it is signed by a clock and
carries the data set of that clock, or the one of a better clock with a step added for every hop
between the two. -/
theorem announced_lineage (hnet : Distinct own hears) (hfresh : ∀ i, (nodes i).Fresh (own i))
    (h : (Pool.run (network hears) (networkOf nodes) occurrences).Returns w l) {i : ι}
    {buf : List UInt8} (hsent : (i, Datagram.general buf) ∈ w.sent) (hf : WellFramed buf)
    {msg : AnnounceMessage} (hmsg : decodeBody GeneralMessage.new buf = pure (.announce msg)) :
    (headerSource buf hf.header).clockIdentity = (own i).identity ∧
      (msg.foreignClockDs = own i ∨
        ∃ k g, BetterAt own hears i k g ∧ msg.foreignClockDs = (own g).hopsAway k) :=
  (network_lineage hnet hfresh h).sent _ hsent hf msg hmsg

/-- In every run of a network, a port follows, yields to and passes on only clocks that are better
than its own. -/
theorem network_follows_better (hnet : Distinct own hears) (hfresh : ∀ i, (nodes i).Fresh (own i))
    (h : (Pool.run (network hears) (networkOf nodes) occurrences).Returns w l) {i : ι}
    {fsm : PortFsm F R} (hfsm : fsm ∈ (w.components i).node.ports) :
    ∃ s, fsm = .new s ∧
      (∀ parent, s.role.Tracks parent → ∃ j k g, hears i j ∧
        parent.parentPortIdentity.clockIdentity = (own j).identity ∧ Hops hears k j g ∧
        BetterAt own hears i (k + 1) g) ∧
      (s.role = .passive → ∃ k g, BetterAt own hears i k g) ∧
      ∀ ds, s.role.Announces ds →
        ds = own i ∨ ∃ k g, BetterAt own hears i k g ∧ ds = (own g).hopsAway k := by
  have hinformed := (network_lineage hnet hfresh h).components i
  obtain ⟨s, rfl, hs⟩ := hinformed.node.ports fsm hfsm
  refine ⟨s, rfl, fun parent hparent => ?_, fun hpassive => ?_, fun ds hds => ?_⟩
  · obtain ⟨ds, hout⟩ := hs.role.tracks hparent
    obtain ⟨j, k, g, hj, hsource, hg, hbetter, -⟩ := outdone_better hnet hout
    exact ⟨j, k, g, hj, hsource, hg, hbetter⟩
  · have hrole := hs.role
    rw [hpassive] at hrole
    obtain ⟨source, ds, hout⟩ := hrole
    obtain ⟨j, k, g, -, -, -, hbetter, -⟩ := outdone_better hnet hout
    exact ⟨k + 1, g, hbetter⟩
  · exact announceable_lineage hnet (hs.role.announces hds)

omit [DecidableEq ι] [DecidableRel hears] [FaithfulForeignClockRecords R] in
theorem told_consistent {i : ι} {b : BestForeignRecord R} (hnet : Distinct own hears)
    (hb : b.Told (standpoint own numbers hears (Lineage own hears) i))
    (hreceiver : b.receiver.clockIdentity = (own i).identity) : b.Consistent := by
  intro p hp
  obtain ⟨r, hr, -, rfl⟩ := BestForeignRecord.mem_qualified.mp hp
  obtain ⟨j, hj, hlineage⟩ := hb.told r hr
  obtain ⟨k, g, -, hds⟩ := hlineage.hops
  refine ⟨?_, fun q hq hid => ?_⟩
  · rintro (hself : r.sourcePortIdentity = b.receiver)
    have hsource := hlineage.1
    rw [hself, hreceiver] at hsource
    obtain rfl := hnet.identity i j hsource
    exact hnet.deaf i hj
  · obtain ⟨t, ht, -, rfl⟩ := BestForeignRecord.mem_qualified.mp hq
    obtain ⟨j', -, hlineage'⟩ := hb.told t ht
    obtain ⟨m, g', -, hds'⟩ := hlineage'.hops
    have hid : r.foreignClockDs.identity = t.foreignClockDs.identity := hid
    change r.foreignClockDs.priority1 = t.foreignClockDs.priority1 ∧
      r.foreignClockDs.quality = t.foreignClockDs.quality ∧
      r.foreignClockDs.priority2 = t.foreignClockDs.priority2
    rw [hds, hds'] at hid ⊢
    obtain rfl := hnet.identity g g' hid
    exact ⟨rfl, rfl, rfl⟩

/-- In every run of a network, what a port reports is the least of its qualified records, in the one
order of all of them. -/
theorem network_snapshot_least (hnet : Distinct own hears) (hfresh : ∀ i, (nodes i).Fresh (own i))
    (h : (Pool.run (network hears) (networkOf nodes) occurrences).Returns w l) {i : ι}
    {fsm : PortFsm F R} (hfsm : fsm ∈ (w.components i).node.ports) :
    ∃ s, fsm = .new s ∧
      ((s.parts.bestForeign.qualified = [] ∧ s.parts.bestForeign.snapshot = .ok .empty) ∨
        ∃ best ∈ s.parts.bestForeign.qualified,
          s.parts.bestForeign.snapshot = .ok (best.snapshot s.parts.bestForeign.receiver) ∧
          ∀ q ∈ s.parts.bestForeign.qualified, q ≠ best →
            BestForeignRecord.recordOrder s.parts.bestForeign.receiver best q = .lt) := by
  have hinformed := (network_lineage hnet hfresh h).components i
  obtain ⟨s, rfl, hs⟩ := hinformed.node.ports fsm hfsm
  have hconsistent := told_consistent hnet hs.records hs.receiver.1
  exact ⟨s, rfl, hconsistent.snapshot_least hs.records.unique⟩

end Network

/-! ## Three clocks in a line

The first clock announces itself, and the second one, a boundary clock, passes it on to the third.
-/

def lineOwn : Fin 3 → ClockDS
  | 0 => defaultClock 1
  | 1 => defaultClock 2
  | 2 => defaultClock 3

def lineHears (i j : Fin 3) : Prop := i.val = j.val + 1 ∨ j.val = i.val + 1

instance : DecidableRel lineHears := fun _ _ => inferInstanceAs (Decidable (_ ∨ _))

theorem distinct_line : Distinct lineOwn lineHears := by
  refine ⟨fun i => ?_, by decide, by decide, by decide⟩
  fin_cases i <;> exact ⟨rfl, rfl⟩

/-- An ordinary clock of the default profile. -/
def defaultNode (ds : ClockDS) : OrdinaryNode ℚ ForeignClockRecordsVec :=
  ⟨⟨ds, ⟨0⟩, ⟨1, 2⟩, .empty, some (newDecisionTimeout ds), .default⟩,
    .new (PortProfile.default.initializing ⟨⟨ds.identity, ⟨1⟩⟩, ⟨0⟩⟩
      ⟨⟨ds, ⟨1⟩⟩, ⟨⟨ds.identity, ⟨1⟩⟩, .new⟩, ⟨.empty, ⟨1⟩⟩⟩)⟩

theorem fresh_defaultNode (ds : ClockDS) : (ClockNode.ordinary (defaultNode ds)).Fresh ds :=
  ⟨_, _, _, rfl, rfl⟩

def lineNodes : Fin 3 → ClockNode ℚ ForeignClockRecordsVec
  | 0 => .ordinary (defaultNode (defaultClock 1))
  | 1 => .boundary ⟨⟨defaultClock 2, ⟨0⟩, ⟨2, 1⟩, .new, []⟩, []⟩
  | 2 => .ordinary (defaultNode (defaultClock 3))

theorem fresh_line (i : Fin 3) : (lineNodes i).Fresh (lineOwn i) :=
  match i with
  | 0 => fresh_defaultNode _
  | 1 => ⟨_, 2, _, [], rfl, [], by simp, rfl⟩
  | 2 => fresh_defaultNode _

theorem announceReceiptTimeout_message : ¬ (PortInput.system .announceReceiptTimeout).IsDecision := id

theorem announceSendTimeout_message : ¬ (PortInput.system .announceSendTimeout).IsDecision := id

theorem qualificationTimeout_message : ¬ (PortInput.system .qualificationTimeout).IsDecision := id

theorem iter_new : ForeignClockRecords.iter ForeignClockRecordsVec.new = [] := rfl

/-- The messages that make a master of a port which is initialized. -/
def mastering (index : ℕ) : List (ClockInput ForeignClockRecordsVec ℕ) :=
  [.system index (.calm (.fromSecs 0)) .initialized initialized_message,
    .system index (.calm (.fromSecs 0)) .announceReceiptTimeout announceReceiptTimeout_message]

/-- A master announces itself once more. -/
def announcing (index : ℕ) : ClockInput ForeignClockRecordsVec ℕ :=
  .system index (.calm (.fromSecs 0)) .announceSendTimeout announceSendTimeout_message

/-- A datagram arrives after some seconds. -/
def hearing (index : ℕ) (secs : UInt32) (number : ℕ) : ClockInput ForeignClockRecordsVec ℕ :=
  .datagram index (.calm (.fromSecs secs)) ⟨1, 2, by decide, by decide⟩ (.fromSecs secs) number

def deciding (index number : ℕ) : ClockInput ForeignClockRecordsVec ℕ :=
  .notification index (.calm (.fromSecs 1)) number

/-- Two ports are created, one of them is a master, and the other one hears two Announces. -/
def passing : List (ClockInput ForeignClockRecordsVec ℕ) :=
  [.create .new iter_new, .create .new iter_new] ++ mastering 1 ++
    [.system 0 (.calm (.fromSecs 0)) .initialized initialized_message, hearing 0 0 0, hearing 0 1 1,
      deciding 0 12, deciding 1 12,
      .system 1 (.calm (.fromSecs 2)) .qualificationTimeout qualificationTimeout_message,
      announcing 1]

/-- What happens at the first of three clocks, and then at the second one. -/
def firstAndSecond {α : Type} (first second : List α) : List (Fin 3 × α) :=
  first.map (Prod.mk 0) ++ second.map (Prod.mk 1)

def lineOccurrences : List (Fin 3 × ClockInput ForeignClockRecordsVec ℕ) :=
  firstAndSecond (mastering 0 ++ [announcing 0, announcing 0]) passing

/-- What the second clock announces of the first one. -/
def passedOn : AnnounceMessage := ⟨⟨0⟩, ⟨0⟩, (defaultClock 1).hopsAway 1, .ptp⟩

def passedOnOctets : List UInt8 :=
  GeneralMessage.toWire (.announce passedOn) (.new ⟨0⟩ ⟨(defaultClock 2).identity, ⟨2⟩⟩)

theorem line_run :
    ∃ (w : Pool (Fin 3) (ClockWorld ℚ ForeignClockRecordsVec) Datagram) (l : List (Effect ℚ)),
      (Pool.run (network lineHears) (networkOf lineNodes) lineOccurrences).Returns w l ∧
      w.sent[2]? = some (1, .general passedOnOctets) ∧
      (w.components 1).node.ports.map (fun fsm => fsm.state.map PortState.role) =
        [some (.uncalibrated ⟨⟨(defaultClock 1).identity, ⟨1⟩⟩⟩),
          some (.master passedOn.foreignClockDs)] := by
  have hrun : (Pool.run (network lineHears) (networkOf lineNodes) lineOccurrences).run.toOption.map
      (fun p => (p.1.sent[2]?, (p.1.components 1).node.ports.map
        fun fsm => fsm.state.map PortState.role)) =
      some (some (1, .general passedOnOctets),
        [some (.uncalibrated ⟨⟨(defaultClock 1).identity, ⟨1⟩⟩⟩),
          some (.master passedOn.foreignClockDs)]) := by
    decide +kernel
  obtain ⟨⟨w, l⟩, hret, hw⟩ := Option.map_eq_some_iff.mp hrun
  exact ⟨w, l, Act.returns_of_toOption hret, congrArg Prod.fst hw, congrArg Prod.snd hw⟩

theorem passedOn_carries : Carries GeneralMessage.new passedOnOctets ⟨0⟩
    ⟨(defaultClock 2).identity, ⟨2⟩⟩ (.announce passedOn) :=
  generalMessage_carries _ _ _ ⟨rfl, rfl⟩

/-- The third datagram is an Announce of the second clock, which is one hop away from the first. -/
theorem announced_lineage_line :
    ∃ (w : Pool (Fin 3) (ClockWorld ℚ ForeignClockRecordsVec) Datagram) (l : List (Effect ℚ)),
      (Pool.run (network lineHears) (networkOf lineNodes) lineOccurrences).Returns w l ∧
      (1, Datagram.general passedOnOctets) ∈ w.sent ∧
      decodeBody GeneralMessage.new passedOnOctets = pure (.announce passedOn) ∧
      (passedOn.foreignClockDs = lineOwn 1 ∨
        ∃ k g, BetterAt lineOwn lineHears 1 k g ∧ passedOn.foreignClockDs = (lineOwn g).hopsAway k) := by
  obtain ⟨w, l, hrun, hsent, -⟩ := line_run
  have hmem := List.mem_of_getElem? hsent
  exact ⟨w, l, hrun, hmem, passedOn_carries.body, (announced_lineage distinct_line fresh_line hrun hmem
    passedOn_carries.framed passedOn_carries.body).2⟩

/-- One port of the second clock follows the first clock, and the other one passes it on. -/
theorem network_follows_better_line :
    ∃ (w : Pool (Fin 3) (ClockWorld ℚ ForeignClockRecordsVec) Datagram) (l : List (Effect ℚ)),
      (Pool.run (network lineHears) (networkOf lineNodes) lineOccurrences).Returns w l ∧
      (∃ fsm ∈ (w.components 1).node.ports, ∃ s, fsm = .new s ∧
        s.role = .uncalibrated ⟨⟨(defaultClock 1).identity, ⟨1⟩⟩⟩) ∧
      ∀ fsm ∈ (w.components 1).node.ports, ∃ s, fsm = .new s ∧ ∀ parent, s.role.Tracks parent →
        ∃ j k g, lineHears 1 j ∧ parent.parentPortIdentity.clockIdentity = (lineOwn j).identity ∧
          Hops lineHears k j g ∧ BetterAt lineOwn lineHears 1 (k + 1) g := by
  obtain ⟨w, l, hrun, -, hroles⟩ := line_run
  refine ⟨w, l, hrun, ?_, fun fsm hfsm => ?_⟩
  · have hmem : some (Role.uncalibrated ⟨⟨(defaultClock 1).identity, ⟨1⟩⟩⟩) ∈
        (w.components 1).node.ports.map fun fsm => fsm.state.map PortState.role := by
      rw [hroles]
      exact List.mem_cons_self
    obtain ⟨fsm, hfsm, hrole⟩ := List.mem_map.mp hmem
    obtain ⟨s, hstate, hrole⟩ := Option.map_eq_some_iff.mp hrole
    exact ⟨fsm, hfsm, s, congrArg PortFsm.mk hstate, hrole⟩
  · obtain ⟨s, hs, hparent, -⟩ := network_follows_better distinct_line fresh_line hrun hfsm
    exact ⟨s, hs, hparent⟩

/-- The port of the second clock that heard the first one twice reports the best of what it heard. -/
theorem network_snapshot_least_line :
    ∃ (w : Pool (Fin 3) (ClockWorld ℚ ForeignClockRecordsVec) Datagram) (l : List (Effect ℚ)),
      (Pool.run (network lineHears) (networkOf lineNodes) lineOccurrences).Returns w l ∧
      (w.components 1).node.ports.length = 2 ∧
      ∀ fsm ∈ (w.components 1).node.ports, ∃ s, fsm = .new s ∧
        ((s.parts.bestForeign.qualified = [] ∧ s.parts.bestForeign.snapshot = .ok .empty) ∨
          ∃ best ∈ s.parts.bestForeign.qualified,
            s.parts.bestForeign.snapshot = .ok (best.snapshot s.parts.bestForeign.receiver) ∧
            ∀ q ∈ s.parts.bestForeign.qualified, q ≠ best →
              BestForeignRecord.recordOrder s.parts.bestForeign.receiver best q = .lt) := by
  obtain ⟨w, l, hrun, -, hroles⟩ := line_run
  have hlength := congrArg List.length hroles
  rw [List.length_map] at hlength
  exact ⟨w, l, hrun, hlength, fun fsm hfsm =>
    network_snapshot_least distinct_line fresh_line hrun hfsm⟩

end Rptp
