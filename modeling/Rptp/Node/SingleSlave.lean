import Rptp.Node.Boundary
import Rptp.Port.Coherence

/-! # A boundary clock has one slave port

A port tracks a parent only by the last state decision it processed. Two ports that processed the
same snapshot last cannot both track, since the snapshot names the one port on which its best
foreign data set was received.
-/

namespace Rptp

open Machine

variable {F R : Type} [F64 F] [ForeignClockRecords R]

/-- The ungated decision of a port on the snapshot is to follow the parent. -/
def StateDecisionSnapshot.SelectsParent (snapshot : StateDecisionSnapshot)
    (portNumber : PortNumber) (parent : ParentPortIdentity) : Prop :=
  ∃ eRbest, BestMasterClockAlgorithm.evaluate portNumber snapshot.d0 snapshot.eBest eRbest =
    .ok (.slave parent)

/-- A snapshot selects a parent only for the port that received its best foreign data set, and only
when that data set is better than the local one. -/
theorem StateDecisionSnapshot.SelectsParent.eBest {snapshot : StateDecisionSnapshot}
    {portNumber : PortNumber} {parent : ParentPortIdentity}
    (h : snapshot.SelectsParent portNumber parent) :
    snapshot.d0.isAuthoritative = false ∧ ∃ ds source receiver,
      snapshot.eBest = .qualified ds source receiver ∧ receiver.portNumber = portNumber ∧
      parent = ⟨source⟩ ∧
      LocalDS.isBetterOrBetterByTopology snapshot.d0 snapshot.eBest ≠ .ok (.ok snapshot.d0) := by
  obtain ⟨eRbest, h⟩ := h
  rcases BestMasterClockAlgorithm.evaluate_cases portNumber snapshot.d0 snapshot.eBest eRbest with
    ⟨-, -, h'⟩ | ⟨-, -, h'⟩ | ⟨-, -, h'⟩ |
    ⟨ds, source, receiver, hauth, hbest, hlocal, ⟨hport, h'⟩ | ⟨-, h' | h'⟩⟩
  · rw [h'] at h
    cases h
  · rw [h'] at h
    cases h
  · rw [h'] at h
    cases h
  · rw [h'] at h
    cases h
    refine ⟨hauth, ds, source, receiver, hbest, hport, rfl, ?_⟩
    rw [hlocal]
    intro hc
    cases hc
  · rw [h'] at h
    cases h
  · rw [h'] at h
    cases h

theorem Role.eq_slave_of_tracks {decision : BmcaDecision} {r : Role} {parent : ParentPortIdentity}
    (hr : decision.Realized r) (ht : r.Tracks parent) : decision = .slave parent := by
  cases r with
  | slave p =>
    cases ht
    cases decision <;> cases hr
    rfl
  | uncalibrated p =>
    cases ht
    cases decision <;> cases hr
    rfl
  | initializing => cases ht
  | listening => cases ht
  | master ds => cases ht
  | preMaster ds => cases ht
  | passive => cases ht
  | faulty => cases ht

theorem Role.not_idle_of_tracks {r : Role} {parent : ParentPortIdentity} (ht : r.Tracks parent) :
    ¬ r.Idle := by
  intro hidle
  cases r <;> first | exact ht | exact hidle

/-- A state decision event after which a port tracks a parent has selected it. -/
theorem step_decision_selects {env : Env} {s s' : PortState F R}
    {snapshot : StateDecisionSnapshot} {l : List (Effect F)} {parent : ParentPortIdentity}
    (h : (s.step env (.system (.stateDecisionEvent snapshot))).Returns s' l)
    (ht : s'.role.Tracks parent) :
    snapshot.SelectsParent s.parts.bmca.portNumber parent := by
  by_cases hopen : s.role.Idle ∨ (s.role = .listening ∧ s.parts.bestForeign.snapshot = .ok .empty)
  · -- The role ignores the event, so that it is unchanged and tracks nothing.
    exfalso
    have hgate : ∀ {d l'}, Answer s (.system (.stateDecisionEvent snapshot)) l' d → d = none := by
      intro d l' hanswer
      cases hanswer with
      | quiet hin => exact absurd trivial hin
      | sendFailed hin => exact absurd trivial hin
      | locked hin => exact absurd trivial hin
      | unlocked hin => exact absurd trivial hin
      | decided hsnap heval =>
        rcases hopen with hidle | ⟨hrole, hempty⟩
        · cases hr : s.role <;> rw [hr] at hidle <;> first | rfl | cases hidle
        · rw [hempty] at hsnap
          cases hsnap
          rw [hrole]
          rfl
    rcases step_returns h with hd | ⟨s₁, d, r, l₁, l₂, hd, -⟩
    · rw [hd.role] at ht
      rcases hopen with hidle | ⟨hrole, -⟩
      · exact Role.not_idle_of_tracks ht hidle
      · rw [hrole] at ht
        cases ht
    · cases hgate hd.answer
  · obtain ⟨hidle, hlistening⟩ := not_or.mp hopen
    obtain ⟨eRbest, decision, -, heval, hrealized⟩ := step_realizes hidle hlistening h
    rw [Role.eq_slave_of_tracks hrealized ht] at heval
    exact ⟨eRbest, heval⟩

/-- Only a state decision event makes a port track a parent that it did not track before. -/
theorem step_other_tracks {env : Env} {s s' : PortState F R} {input : PortInput}
    {l : List (Effect F)} {parent : ParentPortIdentity} (hin : ¬ input.IsDecision)
    (h : (s.step env input).Returns s' l) (ht : s'.role.Tracks parent) : s.role.Tracks parent := by
  rcases step_returns h with hd | ⟨s₁, d, r, l₁, l₂, hd, hnext, hm, -⟩
  · rwa [hd.role] at ht
  · have hanswer := hd.answer
    generalize hsome : some d = d' at hanswer
    rw [hm.role] at ht
    cases hanswer with
    | quiet => cases hsome
    | decided => exact absurd trivial hin
    | expired =>
      cases hsome
      cases hr : s.role <;> rw [hr] at hnext <;> cases hnext <;> cases ht
    | initialized hrole =>
      cases hsome
      rw [hrole] at hnext
      cases hnext
      cases ht
    | qualified hrole =>
      cases hsome
      rw [hrole] at hnext
      cases hnext
      cases ht
    | faultCleared hrole =>
      cases hsome
      rw [hrole] at hnext
      cases hnext
      cases ht
    | sendFailed =>
      cases hsome
      cases hr : s.role <;> rw [hr] at hnext <;> cases hnext <;> cases ht
    | locked _ hrole =>
      cases hsome
      rw [hrole] at hnext ⊢
      cases hnext
      exact ht
    | unlocked _ hrole =>
      cases hsome
      rw [hrole] at hnext ⊢
      cases hnext
      exact ht

/-- The snapshot that the port with the given index processed last. -/
def lastDecision (index : ℕ) (actions : List (BoundaryAction R)) : Option StateDecisionSnapshot :=
  actions.foldl (fun last action => match action with
    | .deliver i _ (.system (.stateDecisionEvent snapshot)) => if i = index then some snapshot else last
    | _ => last) none

omit [ForeignClockRecords R] in
/-- The actions that are no state decision for a port leave its last decision as it is. -/
theorem lastDecision_append (index : ℕ) (actions : List (BoundaryAction R))
    (action : BoundaryAction R) :
    lastDecision index (actions ++ [action]) = match action with
      | .deliver i _ (.system (.stateDecisionEvent snapshot)) =>
        if i = index then some snapshot else lastDecision index actions
      | _ => lastDecision index actions := by
  simp only [lastDecision, List.foldl_append, List.foldl_cons, List.foldl_nil]

omit [ForeignClockRecords R] in
theorem lastDecision_other {index j : ℕ} {env : Env} {input : PortInput}
    (h : j ≠ index ∨ ¬ input.IsDecision) (actions : List (BoundaryAction R)) :
    lastDecision j (actions ++ [.deliver index env input]) = lastDecision j actions := by
  rw [lastDecision_append]
  by_cases hin : input.IsDecision
  · obtain ⟨snapshot, rfl⟩ := hin.eq
    have hne : j ≠ index := h.resolve_right (not_not.mpr hin)
    exact if_neg hne.symm
  · cases input with
    | event source msg ts => rfl
    | general source msg now => rfl
    | system msg =>
      cases msg
      case stateDecisionEvent => exact absurd trivial hin
      all_goals rfl

namespace BoundaryNode

/-- The node has a port with the given index in the given state. -/
def HasPort (node : BoundaryNode F R) (index : ℕ) (s : PortState F R) : Prop :=
  node.ports[index]? = some (PortFsm.new s)

/-- What holds of the ports after the actions: they are numbered from one, and one that tracks a
parent has selected it by the last decision it processed. -/
structure Decided (actions : List (BoundaryAction R)) (node : BoundaryNode F R) : Prop where
  enumerated : node.clock.portEnumeration.next.toNat = node.ports.length + 1
  present : ∀ fsm ∈ node.ports, ∃ s, fsm = PortFsm.new s
  numbered : ∀ index s, node.HasPort index s →
    s.handover.port.portIdentity.portNumber.value.toNat = index + 1 ∧
      s.parts.bmca.portNumber = s.handover.port.portIdentity.portNumber
  selected : ∀ index s parent, node.HasPort index s → s.role.Tracks parent →
    ∃ snapshot, lastDecision index actions = some snapshot ∧
      snapshot.SelectsParent s.parts.bmca.portNumber parent

theorem deliver_port {env : Env} {node node' : BoundaryNode F R} {index : ℕ} {input : PortInput}
    {l : List (Effect F)} (hpresent : ∀ fsm ∈ node.ports, ∃ s, fsm = PortFsm.new s)
    (h : (node.deliver env index input).Returns node' l) :
    (node.ports[index]? = none ∧ node' = node) ∨
      ∃ s s', node.HasPort index s ∧ (s.step env input).Returns s' l ∧
        notifyClock env node.clock l = .ok node'.clock ∧
        node'.ports = node.ports.set index (PortFsm.new s') := by
  rcases deliver_returns h with hnone | ⟨fsm, fsm', clock, hfsm, hprocess, hclock, rfl⟩
  · exact .inl hnone
  · obtain ⟨s, rfl⟩ := hpresent fsm (List.mem_of_getElem? hfsm)
    rw [PortFsm.process_new, map_eq_pure_bind, Act.returns_bind_pure] at hprocess
    obtain ⟨s', hstep, rfl⟩ := hprocess
    exact .inr ⟨s, s', hfsm, hstep, hclock, rfl⟩

omit [F64 F] [ForeignClockRecords R] in
theorem hasPort_append {node node' : BoundaryNode F R} {state s : PortState F R} {index : ℕ}
    (h : node'.ports = node.ports ++ [PortFsm.new state]) :
    node'.HasPort index s ↔ node.HasPort index s ∨ (index = node.ports.length ∧ s = state) := by
  unfold HasPort
  rw [h, List.getElem?_append]
  split_ifs with hlt
  · constructor
    · exact .inl
    · rintro (hs | ⟨rfl, -⟩)
      · exact hs
      · exact absurd hlt (lt_irrefl _)
  · rw [List.getElem?_eq_none (not_lt.mp hlt), List.getElem?_singleton]
    constructor
    · intro hs
      split_ifs at hs with hzero
      cases hs
      exact .inr ⟨by omega, rfl⟩
    · rintro (hs | ⟨rfl, rfl⟩)
      · cases hs
      · rw [if_pos (Nat.sub_self _)]

omit [F64 F] [ForeignClockRecords R] in
theorem hasPort_set {node node' : BoundaryNode F R} {s s' t : PortState F R} {index j : ℕ}
    (h : node'.ports = node.ports.set index (PortFsm.new s')) (hs : node.HasPort index s) :
    node'.HasPort j t ↔ (j ≠ index ∧ node.HasPort j t) ∨ (j = index ∧ t = s') := by
  have hlt : index < node.ports.length := (List.getElem?_eq_some_iff.mp hs).1
  unfold HasPort
  rw [h, List.getElem?_set]
  by_cases hj : index = j
  · subst hj
    rw [if_pos rfl, if_pos hlt]
    constructor
    · intro ht
      cases ht
      exact .inr ⟨rfl, rfl⟩
    · rintro (⟨hne, -⟩ | ⟨-, rfl⟩)
      · exact absurd rfl hne
      · rfl
  · rw [if_neg hj]
    constructor
    · intro ht
      exact .inl ⟨fun heq => hj heq.symm, ht⟩
    · rintro (⟨-, ht⟩ | ⟨heq, -⟩)
      · exact ht
      · exact absurd heq.symm hj

theorem Decided.port {actions : List (BoundaryAction R)} {node node' : BoundaryNode F R}
    {records : R} {l : List (Effect F)} (hd : Decided actions node)
    (h : (node.act (.port records)).Returns node' l) :
    Decided (actions ++ [.port records]) node' := by
  rcases port_returns h with rfl | ⟨state, hstate, hnext, hports⟩
  · exact ⟨hd.enumerated, hd.present, hd.numbered, fun index s parent hs ht => by
      rw [lastDecision_append]
      exact hd.selected index s parent hs ht⟩
  · obtain ⟨hrole, hidentity, hframe, -⟩ := newPort_state hstate
    have hport : ∀ index s, node'.HasPort index s →
        node.HasPort index s ∨ (index = node.ports.length ∧ s = state) :=
      fun index s hs => (hasPort_append hports).mp hs
    refine ⟨?_, ?_, ?_, ?_⟩
    · rw [hnext, hports, hd.enumerated, List.length_append, List.length_singleton]
    · intro fsm hfsm
      rw [hports] at hfsm
      rcases List.mem_append.mp hfsm with hfsm | hfsm
      · exact hd.present fsm hfsm
      · exact ⟨state, List.mem_singleton.mp hfsm⟩
    · intro index s hs
      rcases hport index s hs with hs | ⟨rfl, rfl⟩
      · exact hd.numbered index s hs
      · have hnumber : s.parts.bmca.portNumber = ⟨node.clock.portEnumeration.next⟩ :=
          congrArg PartsFrame.portNumber hframe
        rw [hidentity, hnumber]
        exact ⟨hd.enumerated, rfl⟩
    · intro index s parent hs ht
      rw [lastDecision_append]
      rcases hport index s hs with hs | ⟨rfl, rfl⟩
      · exact hd.selected index s parent hs ht
      · rw [hrole] at ht
        cases ht

theorem Decided.deliver {actions : List (BoundaryAction R)} {node node' : BoundaryNode F R}
    {env : Env} {index : ℕ} {input : PortInput} {l : List (Effect F)} (hd : Decided actions node)
    (h : (node.deliver env index input).Returns node' l) :
    Decided (actions ++ [.deliver index env input]) node' := by
  rcases deliver_port hd.present h with ⟨hnone, rfl⟩ | ⟨s, s', hs, hstep, hclock, hports⟩
  · refine ⟨hd.enumerated, hd.present, hd.numbered, fun j t parent ht htrack => ?_⟩
    rw [lastDecision_other (.inl ?_)]
    · exact hd.selected j t parent ht htrack
    · rintro rfl
      unfold HasPort at ht
      rw [hnone] at ht
      cases ht
  · have hframe := step_frame hstep
    have hnumber : s'.parts.bmca.portNumber = s.parts.bmca.portNumber :=
      congrArg (fun f => f.portNumber) hframe
    have hidentity : s'.handover.port = s.handover.port := congrArg PortFrame.port hframe
    have hport : ∀ j t, node'.HasPort j t →
        (j ≠ index ∧ node.HasPort j t) ∨ (j = index ∧ t = s') :=
      fun j t ht => (hasPort_set hports hs).mp ht
    refine ⟨?_, ?_, ?_, ?_⟩
    · rw [(BoundaryClock.notifyClock_keeps hclock).2, hports, List.length_set]
      exact hd.enumerated
    · intro fsm hfsm
      rw [hports] at hfsm
      rcases List.mem_or_eq_of_mem_set hfsm with hfsm | rfl
      · exact hd.present fsm hfsm
      · exact ⟨s', rfl⟩
    · intro j t ht
      rcases hport j t ht with ⟨-, ht⟩ | ⟨rfl, rfl⟩
      · exact hd.numbered j t ht
      · rw [hnumber, hidentity]
        exact hd.numbered j s hs
    · intro j t parent ht htrack
      rcases hport j t ht with ⟨hj, ht⟩ | ⟨rfl, rfl⟩
      · rw [lastDecision_other (.inl hj)]
        exact hd.selected j t parent ht htrack
      · rw [hnumber]
        by_cases hin : input.IsDecision
        · obtain ⟨snapshot, rfl⟩ := hin.eq
          refine ⟨snapshot, ?_, step_decision_selects hstep htrack⟩
          rw [lastDecision_append]
          exact if_pos rfl
        · rw [lastDecision_other (.inr hin)]
          exact hd.selected j s parent hs (step_other_tracks hin hstep htrack)

theorem decided_run {ds : ClockDS} {domain : DomainNumber} {numPorts : UInt16}
    {start node : BoundaryNode F R} {actions : List (BoundaryAction R)} {l : List (Effect F)}
    (hnew : BoundaryNode.new ds domain numPorts = .ok start)
    (hrun : (start.run actions).Returns node l) : Decided actions node := by
  refine Act.runAll_history ?_ ?_ hrun
  · obtain ⟨clock, hclock, hret⟩ := Checked.bind_eq_ok.mp hnew
    obtain ⟨enumeration, henum, hpair⟩ := Checked.bind_eq_ok.mp hclock
    cases hpair
    obtain ⟨u, -, hseq⟩ := Checked.bind_eq_ok.mp henum
    cases hseq
    cases hret
    exact ⟨rfl, by simp, fun index s hs => by simp [HasPort] at hs,
      fun index s parent hs => by simp [HasPort] at hs⟩
  · intro actions node action node' l hd h
    cases action with
    | port records => exact hd.port h
    | deliver index env input => exact hd.deliver h

end BoundaryNode

/-- Once every port of a boundary clock has processed the same snapshot last, at most one port
tracks a parent. That port received the best foreign data set of the snapshot and tracks its
sender, and there is none when the local data set is better or authoritative. -/
theorem boundaryClock_singleSlave (ds : ClockDS) (domain : DomainNumber) (numPorts : UInt16)
    (start node : BoundaryNode F R) (actions : List (BoundaryAction R)) (l : List (Effect F))
    (hnew : BoundaryNode.new ds domain numPorts = .ok start)
    (hrun : (start.run actions).Returns node l) (snapshot : StateDecisionSnapshot)
    (hlast : ∀ index < node.ports.length, lastDecision index actions = some snapshot) :
    (∀ i j s t p q, node.HasPort i s → node.HasPort j t → s.role.Tracks p → t.role.Tracks q →
      i = j) ∧
    (∀ i s p, node.HasPort i s → s.role.Tracks p → ∃ e source receiver,
      snapshot.eBest = .qualified e source receiver ∧
      s.handover.port.portIdentity.portNumber = receiver.portNumber ∧ p = ⟨source⟩) ∧
    ((snapshot.eBest = .empty ∨
        LocalDS.isBetterOrBetterByTopology snapshot.d0 snapshot.eBest = .ok (.ok snapshot.d0) ∨
        snapshot.d0.isAuthoritative = true) →
      ∀ i s p, node.HasPort i s → ¬ s.role.Tracks p) := by
  have hd := BoundaryNode.decided_run hnew hrun
  have hselected : ∀ i s p, node.HasPort i s → s.role.Tracks p →
      snapshot.SelectsParent s.handover.port.portIdentity.portNumber p := by
    intro i s p hs ht
    obtain ⟨last, heq, hsel⟩ := hd.selected i s p hs ht
    rw [hlast i (List.getElem?_eq_some_iff.mp hs).1] at heq
    cases heq
    rw [← (hd.numbered i s hs).2]
    exact hsel
  refine ⟨?_, ?_, ?_⟩
  · intro i j s t p q hs ht htracks htracks'
    obtain ⟨-, e, source, receiver, heq, hport, -⟩ := (hselected i s p hs htracks).eBest
    obtain ⟨-, e', source', receiver', heq', hport', -⟩ := (hselected j t q ht htracks').eBest
    rw [heq] at heq'
    cases heq'
    have hi := (hd.numbered i s hs).1
    have hj := (hd.numbered j t ht).1
    rw [← hport] at hi
    rw [← hport', hi] at hj
    omega
  · intro i s p hs htracks
    obtain ⟨-, e, source, receiver, heq, hport, hp, -⟩ := (hselected i s p hs htracks).eBest
    exact ⟨e, source, receiver, heq, hport.symm, hp⟩
  · intro hnone i s p hs htracks
    obtain ⟨hauth, e, source, receiver, heq, -, -, hlocal⟩ := (hselected i s p hs htracks).eBest
    rcases hnone with hempty | hbetter | hauthoritative
    · rw [hempty] at heq
      cases heq
    · exact hlocal hbetter
    · rw [hauth] at hauthoritative
      cases hauthoritative

/-- Two ports of the second clock. The first clock is heard on one of them, and then both process
the same snapshot. -/
def twoPortActions : List (BoundaryAction ForeignClockRecordsVec) :=
  [.port .new, .port .new,
    .deliver 0 (.calm (.fromSecs 0)) (.system .initialized),
    .deliver 1 (.calm (.fromSecs 0)) (.system .initialized),
    .deliver 0 (.calm (.fromSecs 0))
      (.general ⟨(defaultClock 1).identity, ⟨1⟩⟩ (announceOfFirst 0) (.fromSecs 0)),
    .deliver 0 (.calm (.fromSecs 1))
      (.general ⟨(defaultClock 1).identity, ⟨1⟩⟩ (announceOfFirst 1) (.fromSecs 1)),
    .deliver 1 (.calm (.fromSecs 1)) (.system (.stateDecisionEvent heardSnapshot)),
    .deliver 0 (.calm (.fromSecs 1)) (.system (.stateDecisionEvent heardSnapshot))]

theorem boundaryClock_singleSlave_two :
    ∃ (start node : BoundaryNode ℚ ForeignClockRecordsVec) (l : List (Effect ℚ)),
      BoundaryNode.new (defaultClock 2) ⟨0⟩ 2 = .ok start ∧
      (start.run twoPortActions).Returns node l ∧ node.ports.length = 2 ∧
      (∃ s, node.HasPort 0 s ∧ s.role.Tracks ⟨⟨(defaultClock 1).identity, ⟨1⟩⟩⟩) ∧
      ∀ j t q, node.HasPort j t → t.role.Tracks q → j = 0 := by
  have hrun : ∃ (start node : BoundaryNode ℚ ForeignClockRecordsVec) (l : List (Effect ℚ)) (s : _),
      BoundaryNode.new (defaultClock 2) ⟨0⟩ 2 = .ok start ∧
      (start.run twoPortActions).Returns node l ∧ node.ports.length = 2 ∧ node.HasPort 0 s ∧
      s.role.Tracks ⟨⟨(defaultClock 1).identity, ⟨1⟩⟩⟩ :=
    ⟨_, _, _, _, rfl, rfl, rfl, rfl, rfl⟩
  obtain ⟨start, node, l, s, hnew, hrun, hlength, hs, ht⟩ := hrun
  refine ⟨start, node, l, hnew, hrun, hlength, ⟨s, hs, ht⟩, ?_⟩
  have hlast : ∀ index < node.ports.length,
      lastDecision index twoPortActions = some heardSnapshot := by
    rw [hlength]
    intro index hindex
    obtain rfl | rfl : index = 0 ∨ index = 1 := by omega
    · rfl
    · rfl
  intro j t q htj htq
  exact (boundaryClock_singleSlave (defaultClock 2) ⟨0⟩ 2 start node twoPortActions l hnew hrun
    heardSnapshot hlast).1 j 0 t s q _ htj hs htq ht

end Rptp
