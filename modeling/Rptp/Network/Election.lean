import Mathlib.Logic.Relation
import Rptp.Network.Lineage

/-! # Who is elected

The best clock of a network leads in every run. On a network of ordinary clocks, nobody follows
itself over others, and whoever has heard the best clock follows it, once the port has processed the
state decision of its clock.
-/

namespace Rptp

open Machine

variable {ι F R : Type} {own : ι → ClockDS} {hears : ι → ι → Prop}

/-- The best clock of a network. -/
def IsBest (own : ι → ClockDS) (b : ι) : Prop :=
  ∀ j, j ≠ b → ClockDS.lexicographic (own b) (own j) = .lt

instance [Fintype ι] [DecidableEq ι] (b : ι) : Decidable (IsBest own b) :=
  inferInstanceAs (Decidable (∀ _, _ → _))

theorem IsBest.not_better {b g : ι} (hbest : IsBest own b) :
    ClockDS.lexicographic (own g) (own b) ≠ .lt := by
  intro hlt
  by_cases hg : g = b
  · subst hg
    have hself : ClockDS.lexicographic (own g) (own g) = .eq := Std.ReflCmp.compare_self
    rw [hself] at hlt
    cases hlt
  · have hgt := lexicographic_gt_of_lt (hbest g hg)
    rw [hlt] at hgt
    cases hgt

section Runs

variable [DecidableEq ι] [DecidableRel hears] [F64 F] [ForeignClockRecords R]
  [FaithfulForeignClockRecords R] {nodes : ι → ClockNode F R}
  {occurrences : List (ι × ClockInput R ℕ)} {w : Pool ι (ClockWorld F R) Datagram}
  {l : List (Effect F)}

/-- In every run of a network the best clock leads: its ports follow nobody and yield to nobody, and
it announces nothing but its own data set. -/
theorem best_leads (hnet : Distinct own hears) (hfresh : ∀ i, (nodes i).Fresh (own i))
    (h : (Pool.run (network hears) (networkOf nodes) occurrences).Returns w l) {b : ι}
    (hbest : IsBest own b) :
    (∀ fsm ∈ (w.components b).node.ports, ∃ s, fsm = .new s ∧ (∀ parent, ¬ s.role.Tracks parent) ∧
      s.role ≠ .passive ∧ ∀ ds, s.role.Announces ds → ds = own b) ∧
    ∀ buf msg, (b, Datagram.general buf) ∈ w.sent → WellFramed buf →
      decodeBody GeneralMessage.new buf = pure (.announce msg) → msg.foreignClockDs = own b := by
  have hworst : ∀ k g, ¬ BetterAt own hears b k g := fun k g hg => hbest.not_better hg.2
  have hown : ∀ ds, (ds = own b ∨ ∃ k g, BetterAt own hears b k g ∧ ds = (own g).hopsAway k) →
      ds = own b := by
    rintro ds (hds | ⟨k, g, hg, -⟩)
    · exact hds
    · exact absurd hg (hworst k g)
  have hw := network_lineage hnet hfresh h
  constructor
  · intro fsm hfsm
    obtain ⟨s, rfl, hs⟩ := (hw.components b).node.ports fsm hfsm
    refine ⟨s, rfl, fun parent hparent => ?_, fun hpassive => ?_, fun ds hds => ?_⟩
    · obtain ⟨ds, hout⟩ := hs.role.tracks hparent
      obtain ⟨j, k, g, -, -, -, hg, -⟩ := outdone_better hnet hout
      exact hworst _ g hg
    · have hrole := hs.role
      rw [hpassive] at hrole
      obtain ⟨source, ds, hout⟩ := hrole
      obtain ⟨j, k, g, -, -, -, hg, -⟩ := outdone_better hnet hout
      exact hworst _ g hg
    · exact hown ds (announceable_lineage hnet (hs.role.announces hds))
  · intro buf msg hsent hf hmsg
    exact hown _ (hw.sent _ hsent hf msg hmsg).2

end Runs

/-- The first of three clocks in a line leads, while the second one passes it on. -/
theorem best_leads_line :
    ∃ (w : Pool (Fin 3) (ClockWorld ℚ ForeignClockRecordsVec) Datagram) (l : List (Effect ℚ)),
      (Pool.run (network lineHears) (networkOf lineNodes) lineOccurrences).Returns w l ∧
      (1, Datagram.general passedOnOctets) ∈ w.sent ∧
      ∀ fsm ∈ (w.components 0).node.ports, ∃ s, fsm = .new s ∧
        (∀ parent, ¬ s.role.Tracks parent) ∧ s.role ≠ .passive ∧
        ∀ ds, s.role.Announces ds → ds = lineOwn 0 := by
  obtain ⟨w, l, hrun, hsent, -⟩ := line_run
  have hbest : IsBest lineOwn 0 := by decide
  exact ⟨w, l, hrun, List.mem_of_getElem? hsent, (best_leads distinct_line fresh_line hrun hbest).1⟩

section Ordinary

/-- What an ordinary clock may announce: itself, from its only port. -/
def AnnouncesItself (own : ι → ClockDS) (i : ι) (source : PortIdentity) (ds : ClockDS) : Prop :=
  source = ⟨(own i).identity, ⟨1⟩⟩ ∧ ds = own i

/-- An ordinary clock is told of the clocks that it hears, by themselves. -/
def ordinaryStandpoint (own : ι → ClockDS) (hears : ι → ι → Prop) (i : ι) : Standpoint :=
  standpoint own (fun _ n => n = ⟨1⟩) hears (AnnouncesItself own) i

theorem ordinary_announceable {i : ι} {ds : ClockDS}
    (h : Announceable (ordinaryStandpoint own hears i) ds) : ds = own i := by
  rcases h with hds | ⟨⟨n, m, hn, hm, hnm⟩, -⟩
  · exact hds
  · exact absurd (hn.trans hm.symm) hnm

theorem ordinary_outdone (hnet : Distinct own hears) {i : ι} {source : PortIdentity} {ds : ClockDS}
    (h : Outdone (ordinaryStandpoint own hears i) source ds) :
    ∃ j, hears i j ∧ source = ⟨(own j).identity, ⟨1⟩⟩ ∧ ds = own j ∧
      ClockDS.lexicographic (own j) (own i) = .lt := by
  obtain ⟨⟨j, hj, rfl, rfl⟩, receiver, -, hlocal⟩ := h
  have hne : (own i).identity ≠ (own j).identity := by
    intro hid
    obtain rfl := hnet.identity i j hid
    exact hnet.deaf i hj
  refine ⟨j, hj, rfl, rfl, ?_⟩
  rcases ClockDS.compare_of_identity_ne hne with ⟨hlt, -⟩ | ⟨hgt, -⟩
  · have hown := LocalDS.isBetter_of_identity_ne ⟨(own j).identity, ⟨1⟩⟩ receiver hne
    rw [if_pos hlt] at hown
    cases hlocal.symm.trans hown
  · exact Std.OrientedCmp.lt_of_gt hgt

variable [DecidableEq ι] [DecidableRel hears] [F64 F] [ForeignClockRecords R]
  [FaithfulForeignClockRecords R] {nodes : ι → OrdinaryNode F R}
  {occurrences : List (ι × ClockInput R ℕ)} {w : Pool ι (ClockWorld F R) Datagram}
  {l : List (Effect F)}

/-- On a network of ordinary clocks, every clock is told of the others by themselves. -/
theorem ordinary_informed (hnet : Distinct own hears)
    (hfresh : ∀ i, (ClockNode.ordinary (nodes i)).Fresh (own i))
    (h : (Pool.run (network hears) (networkOf fun i => .ordinary (nodes i)) occurrences).Returns w l) :
    w.Guarantees (fun i world => world.Informed (ordinaryStandpoint own hears i))
      fun i d => d.Told (AnnouncesItself own i) := by
  refine network_informed ?_ ?_ hfresh (fun i n => id) h
  · rintro i source ds ⟨-, rfl⟩
    exact hnet.canonical i
  · rintro i ⟨identity, number⟩ ds ⟨hidentity, hnumber⟩ hds
    exact ⟨congrArg₂ PortIdentity.mk hidentity hnumber, ordinary_announceable hds⟩

/-- The clock `i` follows the clock `j`. -/
def Follows (own : ι → ClockDS) (w : Pool ι (ClockWorld F R) Datagram) (i j : ι) : Prop :=
  ∃ s, PortFsm.new s ∈ (w.components i).node.ports ∧
    s.role.Tracks ⟨⟨(own j).identity, ⟨1⟩⟩⟩

/-- In every run of a network of ordinary clocks, a clock follows only better clocks that it hears,
and nobody follows itself over others. -/
theorem ordinary_acyclic (hnet : Distinct own hears)
    (hfresh : ∀ i, (ClockNode.ordinary (nodes i)).Fresh (own i))
    (h : (Pool.run (network hears) (networkOf fun i => .ordinary (nodes i)) occurrences).Returns w l) :
    (∀ i s parent, PortFsm.new s ∈ (w.components i).node.ports → s.role.Tracks parent →
      ∃ j, hears i j ∧ parent = ⟨⟨(own j).identity, ⟨1⟩⟩⟩) ∧
    ∀ i, ¬ Relation.TransGen (Follows own w) i i := by
  have hw := ordinary_informed hnet hfresh h
  have hparent : ∀ i s parent, PortFsm.new s ∈ (w.components i).node.ports → s.role.Tracks parent →
      ∃ j, hears i j ∧ parent = ⟨⟨(own j).identity, ⟨1⟩⟩⟩ ∧
        ClockDS.lexicographic (own j) (own i) = .lt := by
    intro i s parent hs htracks
    obtain ⟨t, ht, hinformed⟩ := (hw.components i).node.ports _ hs
    obtain rfl : s = t := Option.some.inj (congrArg PortFsm.state ht)
    obtain ⟨ds, hout⟩ := hinformed.role.tracks htracks
    obtain ⟨j, hj, hsource, -, hlt⟩ := ordinary_outdone hnet hout
    exact ⟨j, hj, congrArg ParentPortIdentity.mk hsource, hlt⟩
  have hbetter : ∀ i j, Relation.TransGen (Follows own w) i j →
      ClockDS.lexicographic (own j) (own i) = .lt := by
    have hstep : ∀ i j, Follows own w i j → ClockDS.lexicographic (own j) (own i) = .lt := by
      rintro i j ⟨s, hs, htracks⟩
      obtain ⟨k, -, heq, hlt⟩ := hparent i s _ hs htracks
      have hid : (own j).identity = (own k).identity := by
        injection heq with heq
        injection heq
      rwa [hnet.identity j k hid]
    intro i j hij
    induction hij with
    | single hij => exact hstep _ _ hij
    | tail _ hjk ih => exact Std.TransCmp.lt_trans (hstep _ _ hjk) ih
  constructor
  · intro i s parent hs htracks
    obtain ⟨j, hj, heq, -⟩ := hparent i s parent hs htracks
    exact ⟨j, hj, heq⟩
  · intro i hi
    have hself : ClockDS.lexicographic (own i) (own i) = .eq := Std.ReflCmp.compare_self
    have hlt := hbetter i i hi
    rw [hself] at hlt
    cases hlt

omit [DecidableEq ι] [DecidableRel hears] [FaithfulForeignClockRecords R] in
theorem ordinary_snapshot {b i : ι} {records : BestForeignRecord R} (hnet : Distinct own hears)
    (hbest : IsBest own b) (hrecords : records.Told (ordinaryStandpoint own hears i))
    (hreceiver : records.receiver.clockIdentity = (own i).identity)
    (hheard : recordOf (own b) ∈ records.qualified) :
    records.snapshot = .ok ((recordOf (own b)).snapshot records.receiver) := by
  have hlineage : records.Told (standpoint own (fun _ n => n = ⟨1⟩) hears (Lineage own hears) i) := by
    refine ⟨hrecords.unique, fun r hr => ?_⟩
    obtain ⟨j, hj, hsource, hds⟩ := hrecords.told r hr
    exact ⟨j, hj, by rw [hsource], .inl hds⟩
  rcases (told_consistent hnet hlineage hreceiver).snapshot_least hrecords.unique with
    ⟨hnil, -⟩ | ⟨best, hmem, hsnap, hleast⟩
  · rw [hnil] at hheard
    cases hheard
  · by_cases heq : recordOf (own b) = best
    · rw [heq, hsnap]
    · obtain ⟨r, hr, -, rfl⟩ := BestForeignRecord.mem_qualified.mp hmem
      obtain ⟨j, -, hsource, hds⟩ := hrecords.told r hr
      have hjb : j ≠ b := by
        rintro rfl
        exact heq (congrArg₂ QualifiedForeignClockRecord.mk hds hsource).symm
      -- The other record would come before the one of the best clock.
      have hlt : ((ClockDS.lexicographic r.foreignClockDs (own b)).then _) = .lt :=
        hleast _ hheard heq
      rw [hds, lexicographic_gt_of_lt (hbest j hjb)] at hlt
      cases hlt

end Ordinary

/-- Three ordinary clocks in a line: the first one announces itself, and the second one hears it. -/
def pairOccurrences : List (Fin 3 × ClockInput ForeignClockRecordsVec ℕ) :=
  firstAndSecond (mastering 0 ++ [announcing 0, announcing 0])
    [.system 0 (.calm (.fromSecs 0)) .initialized initialized_message, hearing 0 0 0, hearing 0 1 1]

def lineOrdinary (i : Fin 3) : OrdinaryNode ℚ ForeignClockRecordsVec := defaultNode (lineOwn i)

/-- Three ordinary clocks in a line, where the second one has come to follow the first one. -/
theorem ordinary_acyclic_line :
    ∃ (w : Pool (Fin 3) (ClockWorld ℚ ForeignClockRecordsVec) Datagram) (l : List (Effect ℚ)),
      (Pool.run (network lineHears) (networkOf fun i => .ordinary (lineOrdinary i))
        (pairOccurrences ++ [(1, deciding 0 3)])).Returns w l ∧
      Follows lineOwn w 1 0 ∧ ∀ i, ¬ Relation.TransGen (Follows lineOwn w) i i := by
  have hrun : (Pool.run (network lineHears) (networkOf fun i => .ordinary (lineOrdinary i))
      (pairOccurrences ++ [(1, deciding 0 3)])).run.toOption.map
        (fun p => (p.1.components 1).node.ports.map fun fsm => fsm.state.map PortState.role) =
      some [some (.uncalibrated ⟨⟨(lineOwn 0).identity, ⟨1⟩⟩⟩)] := by
    decide +kernel
  obtain ⟨⟨w, l⟩, hret, hw⟩ := Option.map_eq_some_iff.mp hrun
  have hreach := Act.returns_of_toOption hret
  have hmem : some (Role.uncalibrated ⟨⟨(lineOwn 0).identity, ⟨1⟩⟩⟩) ∈
      (w.components 1).node.ports.map fun fsm => fsm.state.map PortState.role := by
    rw [hw]
    exact List.mem_cons_self
  obtain ⟨fsm, hfsm, hstate⟩ := List.mem_map.mp hmem
  obtain ⟨s, hs, hrole⟩ := Option.map_eq_some_iff.mp hstate
  refine ⟨w, l, hreach, ⟨s, ?_, by rw [hrole]; rfl⟩, (ordinary_acyclic distinct_line
    (fun i => fresh_defaultNode (lineOwn i)) hreach).2⟩
  rwa [show PortFsm.new s = fsm from congrArg PortFsm.mk hs.symm]

/-! ## Convergence -/

/-- The clock of a node holds what its port reported, and its notification carries that. -/
structure OrdinaryNode.Current [ForeignClockRecords R] (node : OrdinaryNode F R) : Prop where
  agreed : node.Agreed
  notified : ∀ timeout ∈ node.clock.portNotification,
    timeout.msg = .stateDecisionEvent ⟨node.clock.defaultDs, node.clock.foreignCandidates⟩

section Convergence

variable [ForeignClockRecords R]

theorem OrdinaryNode.current_new {ds : ClockDS} {domain : DomainNumber} {profile : PortProfile F}
    {records : R} {node : OrdinaryNode F R} (hrecords : ForeignClockRecords.iter records = [])
    (h : OrdinaryNode.new ds domain profile records = .ok (some node)) : node.Current := by
  refine ⟨agreed_new hrecords h, ?_⟩
  obtain ⟨state, hstate, hnode⟩ := Checked.bind_eq_ok.mp h
  cases hstate
  obtain ⟨⟨clock, port⟩, hport, hret⟩ := Checked.bind_eq_ok.mp hnode
  obtain ⟨numbered, hnumber, hnew⟩ := Checked.bind_eq_ok.mp hport
  cases hnumber
  obtain ⟨s, -, hpair⟩ := Checked.bind_eq_ok.mp hnew
  cases hpair
  cases hret
  rintro timeout ⟨⟩
  rfl

variable [F64 F]

theorem OrdinaryNode.Current.process {env : Env} {node node' : OrdinaryNode F R} {input : PortInput}
    {l : List (Effect F)} (hnode : node.Current) (h : (node.process env input).Returns node' l) :
    node'.Current := by
  refine ⟨process_agreed hnode.agreed h, ?_⟩
  obtain ⟨s, hfsm, -, -⟩ := hnode.agreed.port
  obtain ⟨s', -, hstep⟩ := process_step hfsm h
  have hclock := (process_returns h).2
  cases step_reported hstep with
  | silent _ hlog =>
    rw [notifyClock_silent hlog] at hclock
    rw [← Except.ok.inj hclock]
    exact hnode.notified
  | reported l₁ hbefore hlog =>
    rw [hlog, notifyClock_reported hbefore] at hclock
    intro timeout htimeout
    rw [OrdinaryClock.trigger_eq hclock] at htimeout ⊢
    obtain ⟨old, -, rfl⟩ := Option.mem_map.mp htimeout
    rfl

variable [DecidableEq ι] [DecidableRel hears] [FaithfulForeignClockRecords R]
  {nodes : ι → OrdinaryNode F R} {occurrences : List (ι × ClockInput R ℕ)}
  {w w' : Pool ι (ClockWorld F R) Datagram} {l l' : List (Effect F)}

omit [FaithfulForeignClockRecords R] in
theorem ordinary_current (hfresh : ∀ i, (ClockNode.ordinary (nodes i)).Fresh (own i))
    (h : (Pool.run (network hears) (networkOf fun i => .ordinary (nodes i)) occurrences).Returns w l)
    (i : ι) : ∃ node, (w.components i).node = .ordinary node ∧ node.Current := by
  refine network_preserves
    (P := fun _ node => ∃ n, node = ClockNode.ordinary n ∧ n.Current) ?_ ?_ (fun i => ?_) h i
  · rintro i records node node' l - ⟨n, rfl, hn⟩ hcreate
    rw [(Act.returns_pure.mp hcreate).1]
    exact ⟨n, rfl, hn⟩
  · rintro i env index input node node' l ⟨n, rfl, hn⟩ hdeliver
    cases index with
    | zero =>
      obtain ⟨n', hprocess, rfl⟩ := Act.returns_bind_pure.mp hdeliver
      exact ⟨n', rfl, hn.process hprocess⟩
    | succ index =>
      rw [(Act.returns_pure.mp hdeliver).1]
      exact ⟨n, rfl, hn⟩
  · obtain ⟨domain, profile, records, hrecords, hnew⟩ := hfresh i
    exact ⟨nodes i, rfl, OrdinaryNode.current_new hrecords hnew⟩

/-- In every state that a network of ordinary clocks reaches, a clock that holds a qualified record of
the best clock follows it as soon as its port has processed the state decision that the clock last
broadcast. An authoritative clock is passive then. -/
theorem ordinary_follows_best (hnet : Distinct own hears)
    (hfresh : ∀ i, (ClockNode.ordinary (nodes i)).Fresh (own i))
    (h : (Pool.run (network hears) (networkOf fun i => .ordinary (nodes i)) occurrences).Returns w l)
    {b i : ι} (hbest : IsBest own b) (hib : i ≠ b) {s : PortState F R}
    (hs : PortFsm.new s ∈ (w.components i).node.ports) (hactive : ¬ s.role.Idle)
    (hheard : recordOf (own b) ∈ s.parts.bestForeign.qualified) {env : Env} {number : ℕ}
    {msg : SystemMessage} (hsent : (w.components i).sent[number]? = some msg)
    (hlast : msg ∈ (w.components i).node.notifications)
    (hstep : (Pool.step (network hears) w (i, .notification 0 env number)).Returns w' l') :
    ∃ s', (w'.components i).node.ports = [.new s'] ∧
      if (own i).isAuthoritative then s'.role = .passive
      else s'.role.Tracks ⟨⟨(own b).identity, ⟨1⟩⟩⟩ := by
  have hinformed := (ordinary_informed hnet hfresh h).components i
  obtain ⟨node, hnode, hcurrent⟩ := ordinary_current hfresh h i
  -- The port and what its clock holds of it.
  rw [hnode] at hs hlast
  obtain ⟨t, hfsm, hsynced, hheld⟩ := hcurrent.agreed.port
  obtain rfl : s = t :=
    Option.some.inj (congrArg PortFsm.state ((List.mem_singleton.mp hs).trans hfsm))
  have hport := hinformed.node
  rw [hnode] at hport
  obtain ⟨u, hu, hs⟩ := hport.2.2
  obtain rfl : s = u := Option.some.inj (congrArg PortFsm.state (hfsm.symm.trans hu))
  have hsnap := ordinary_snapshot hnet hbest hs.records hs.receiver.1 hheard
  have hprevious : s.previous = (recordOf (own b)).snapshot s.parts.bestForeign.receiver :=
    Except.ok.inj (hsynced.symm.trans hsnap)
  -- The decision is on this data set.
  obtain ⟨timeout, htimeout, rfl⟩ := List.mem_map.mp hlast
  have hmsg := hcurrent.notified timeout (Option.mem_toList.mp htimeout)
  rw [hport.2.1.dataset, hheld, hprevious] at hmsg
  -- The step of the network is a step of the port.
  obtain ⟨world, hworld, rfl⟩ := Pool.step_of_read
    (show _ = some (ClockInput.notification 0 env number) from rfl) hstep
  obtain ⟨node₁, hnext, rfl⟩ := Act.returns_bind_pure.mp hworld
  simp only [ClockWorld.next, hsent, hnode, hmsg] at hnext
  obtain ⟨node', hprocess, rfl⟩ := Act.returns_bind_pure.mp hnext
  obtain ⟨s', hfsm', hs'⟩ := OrdinaryNode.process_step hfsm hprocess
  refine ⟨s', ?_, ?_⟩
  · simp [ClockNode.ports, hfsm']
  · obtain ⟨eRbest, decision, hrbest, heval, hrealized⟩ := step_realizes hactive
      (fun hlistening => by cases hsnap.symm.trans hlistening.2) hs'
    cases hsnap.symm.trans hrbest
    have hne : (own i).identity ≠ (own b).identity := fun hid => hib (hnet.identity i b hid)
    have hordinary := evaluate_ordinary hne hs.receiver.2
    rw [show s.parts.bmca.portNumber = ⟨1⟩ from hs.number] at heval
    cases heval.symm.trans hordinary
    rw [if_neg hbest.not_better] at hrealized
    cases hauth : (own i).isAuthoritative with
    | true =>
      rw [hauth] at hrealized
      exact hrealized
    | false =>
      rw [hauth] at hrealized
      exact hrealized

end Convergence

/-- The state decision of the second clock on what it heard. -/
def pairDecision : SystemMessage :=
  .stateDecisionEvent ⟨defaultClock 2,
    (recordOf (defaultClock 1)).snapshot ⟨(defaultClock 2).identity, ⟨1⟩⟩⟩

theorem pair_run :
    ∃ (w w' : Pool (Fin 3) (ClockWorld ℚ ForeignClockRecordsVec) Datagram) (l l' : List (Effect ℚ)),
      (Pool.run (network lineHears) (networkOf fun i => .ordinary (lineOrdinary i))
        pairOccurrences).Returns w l ∧
      (w.components 1).node.ports.map (fun fsm => fsm.state.map fun s =>
        (s.role, s.parts.bestForeign.qualified)) = [some (.listening, [recordOf (lineOwn 0)])] ∧
      (w.components 1).sent[3]? = some pairDecision ∧
      (w.components 1).node.notifications = [pairDecision] ∧
      (Pool.step (network lineHears) w (1, deciding 0 3)).Returns w' l' := by
  have hrun : (Pool.run (network lineHears) (networkOf fun i => .ordinary (lineOrdinary i))
      pairOccurrences >>= fun w => Pool.step (network lineHears) w (1, deciding 0 3) >>= fun w' =>
        pure (w, w')).run.toOption.map (fun p =>
          ((p.1.1.components 1).node.ports.map fun fsm => fsm.state.map fun s =>
            (s.role, s.parts.bestForeign.qualified),
          (p.1.1.components 1).sent[3]?, (p.1.1.components 1).node.notifications)) =
      some ([some (.listening, [recordOf (lineOwn 0)])], some pairDecision, [pairDecision]) := by
    decide +kernel
  obtain ⟨⟨⟨w, w'⟩, l⟩, hret, hw⟩ := Option.map_eq_some_iff.mp hrun
  obtain ⟨w₁, l₁, l₂, hreach, hrest, -⟩ := Act.returns_bind.mp (Act.returns_of_toOption hret)
  obtain ⟨w₂, hstep, heq⟩ := Act.returns_bind_pure.mp hrest
  cases heq
  exact ⟨w, w', l₁, l₂, hreach, congrArg Prod.fst hw, congrArg (·.2.1) hw, congrArg (·.2.2) hw,
    hstep⟩

theorem ordinary_follows_best_line :
    ∃ (w w' : Pool (Fin 3) (ClockWorld ℚ ForeignClockRecordsVec) Datagram) (l l' : List (Effect ℚ)),
      (Pool.run (network lineHears) (networkOf fun i => .ordinary (lineOrdinary i))
        pairOccurrences).Returns w l ∧
      (Pool.step (network lineHears) w (1, deciding 0 3)).Returns w' l' ∧
      ∃ s', (w'.components 1).node.ports = [.new s'] ∧
        s'.role.Tracks ⟨⟨(lineOwn 0).identity, ⟨1⟩⟩⟩ := by
  obtain ⟨w, w', l, l', hrun, hports, hsent, hlast, hstep⟩ := pair_run
  have hmem : some (Role.listening, [recordOf (lineOwn 0)]) ∈ (w.components 1).node.ports.map
      fun fsm => fsm.state.map fun s => (s.role, s.parts.bestForeign.qualified) := by
    rw [hports]
    exact List.mem_cons_self
  obtain ⟨fsm, hfsm, hstate⟩ := List.mem_map.mp hmem
  obtain ⟨s, hs, hpair⟩ := Option.map_eq_some_iff.mp hstate
  have hrole : s.role = .listening := congrArg Prod.fst hpair
  have hheard : recordOf (lineOwn 0) ∈ s.parts.bestForeign.qualified := by
    rw [show s.parts.bestForeign.qualified = _ from congrArg Prod.snd hpair]
    exact List.mem_cons_self
  have hnew : PortFsm.new s ∈ (w.components 1).node.ports := by
    rwa [show PortFsm.new s = fsm from congrArg PortFsm.mk hs.symm]
  obtain ⟨s', hs', hfollows⟩ := ordinary_follows_best distinct_line
    (fun i => fresh_defaultNode (lineOwn i)) hrun (show IsBest lineOwn 0 by decide) (by decide) hnew
    (by rw [hrole]; exact id) hheard hsent (by rw [hlast]; exact List.mem_cons_self) hstep
  exact ⟨w, w', l, l', hrun, hstep, s', hs', hfollows⟩

end Rptp
