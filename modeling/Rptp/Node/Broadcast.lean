import Rptp.Node.Candidates
import Rptp.Node.SingleSlave
import Rptp.Port.Reports

/-! # A clock and its ports agree on the candidates

The best foreign data set of a port is held by its records, by its trigger and by its clock. A step
of the port reports every change, so that the three are equal between steps, and what the clock
broadcast last is the best of what its ports hold now.
-/

namespace Rptp

open Machine

variable {F R : Type}

section Clock

variable {C : Type} [StateDecisionEvent C] {env : Env} {clock : C} {l : List (Effect F)}

theorem notifyClock_silent (h : ∀ e ∈ l, ¬ e.IsReport) : notifyClock env clock l = .ok clock := by
  induction l with
  | nil => rfl
  | cons e l ih =>
    have hrest := ih fun e he => h e (List.mem_cons_of_mem _ he)
    cases e
    case trigger => exact absurd trivial (h _ List.mem_cons_self)
    all_goals exact hrest

theorem notifyClock_reported (h : ∀ e ∈ l, ¬ e.IsReport) (port : PortNumber)
    (e : BestForeignSnapshot) :
    notifyClock env clock (l ++ [.trigger port e]) = StateDecisionEvent.trigger env clock port e := by
  have hl : notifyClock env clock l = .ok clock := notifyClock_silent h
  unfold notifyClock at hl ⊢
  rw [List.foldlM_append, hl, Checked.ok_bind, List.foldlM_cons]
  exact bind_pure _

end Clock

section Ordinary

/-- The report of the only port is what the clock holds and broadcasts. -/
theorem OrdinaryClock.trigger_eq {env : Env} {clock clock' : OrdinaryClock F}
    {port : PortNumber} {e : BestForeignSnapshot} (h : clock.trigger env port e = .ok clock') :
    clock' = { clock with
      foreignCandidates := e
      portNotification := clock.portNotification.map fun timeout =>
        timeout.restartWithMessage env (.stateDecisionEvent ⟨clock.defaultDs, e⟩) (.fromSecs 0) } := by
  obtain ⟨remembered, hremember, hnotify⟩ := Checked.bind_eq_ok.mp h
  obtain ⟨-, -, hrest⟩ := Checked.bind_eq_ok.mp hremember
  obtain ⟨-, -, hok⟩ := Checked.bind_eq_ok.mp hrest
  cases hok
  cases hnotify
  rfl

theorem newPort_synced [ForeignClockRecords R] {profile : PortProfile F} {ds : ClockDS}
    {domain : DomainNumber} {number : PortNumber} {records : R} {s : PortState F R}
    (hrecords : ForeignClockRecords.iter records = [])
    (h : newPort profile ds domain number records = .ok s) : s.Synced ∧ s.previous = .empty := by
  obtain ⟨previous, hsnap, hret⟩ := Checked.bind_eq_ok.mp h
  cases hret
  have hempty : (⟨⟨ds.identity, number⟩, records⟩ : BestForeignRecord R).snapshot = .ok .empty := by
    rw [BestForeignRecord.snapshot, BestForeignRecord.qualified, hrecords]
    rfl
  exact ⟨hsnap, Except.ok.inj (hsnap.symm.trans hempty)⟩

namespace OrdinaryNode

variable [ForeignClockRecords R]

/-- The trigger of the port holds the best foreign data set of the records, so does the clock, and
an armed notification carries it. -/
structure Agreed (node : OrdinaryNode F R) : Prop where
  port : ∃ s, node.fsm = .new s ∧ s.Synced ∧ node.clock.foreignCandidates = s.previous
  broadcast : ∀ timeout ∈ node.clock.portNotification, timeout.deadline ≠ none →
    timeout.msg = .stateDecisionEvent ⟨node.clock.defaultDs, node.clock.foreignCandidates⟩

theorem agreed_new {defaultDs : ClockDS} {domainNumber : DomainNumber} {profile : PortProfile F}
    {records : R} {node : OrdinaryNode F R} (hrecords : ForeignClockRecords.iter records = [])
    (h : new defaultDs domainNumber profile records = .ok (some node)) : node.Agreed := by
  obtain ⟨state, hstate, hnode⟩ := Checked.bind_eq_ok.mp h
  cases hstate
  obtain ⟨⟨clock, port⟩, hport, hret⟩ := Checked.bind_eq_ok.mp hnode
  obtain ⟨numbered, hnumber, hnew⟩ := Checked.bind_eq_ok.mp hport
  cases hnumber
  obtain ⟨s, hs, hpair⟩ := Checked.bind_eq_ok.mp hnew
  cases hpair
  cases hret
  obtain ⟨hsynced, hprevious⟩ := newPort_synced hrecords hs
  refine ⟨⟨s, rfl, hsynced, hprevious.symm⟩, ?_⟩
  intro timeout htimeout harmed
  cases htimeout
  exact absurd rfl harmed

variable [F64 F]

theorem process_agreed {env : Env} {node node' : OrdinaryNode F R} {input : PortInput}
    {l : List (Effect F)} (hnode : node.Agreed) (h : (node.process env input).Returns node' l) :
    node'.Agreed := by
  obtain ⟨⟨s, hfsm, hsynced, hheld⟩, hbroadcast⟩ := hnode
  obtain ⟨s', hfsm', hstep⟩ := process_step hfsm h
  have hclock := (process_returns h).2
  have hsynced' := step_synced hsynced hstep
  obtain ⟨clock', fsm'⟩ := node'
  cases step_reported hstep with
  | silent htrigger hlog =>
    rw [notifyClock_silent hlog] at hclock
    cases hclock
    refine ⟨⟨s', hfsm', hsynced', ?_⟩, hbroadcast⟩
    rw [hheld, PortState.previous, PortState.previous, htrigger]
  | reported l₁ hbefore hlog =>
    rw [hlog, notifyClock_reported hbefore] at hclock
    obtain rfl := OrdinaryClock.trigger_eq hclock
    refine ⟨⟨s', hfsm', hsynced', rfl⟩, ?_⟩
    intro timeout htimeout _
    obtain ⟨old, -, rfl⟩ := Option.mem_map.mp htimeout
    rfl

end OrdinaryNode

end Ordinary

section Boundary

/-- A report replaces the candidate of its port, and the best of all is broadcast. -/
theorem BoundaryClock.trigger_eq {env : Env} {clock clock' : BoundaryClock} {port : PortNumber}
    {e : BestForeignSnapshot} (h : clock.trigger env port e = .ok clock') :
    ∃ eBest, (clock.foreignCandidates.remember port e).best = .ok eBest ∧
      clock' = { clock with
        foreignCandidates := clock.foreignCandidates.remember port e
        portNotification := clock.portNotification.map fun timeout =>
          timeout.restartWithMessage env (.stateDecisionEvent ⟨clock.defaultDs, eBest⟩)
            (.fromSecs 0) } := by
  obtain ⟨eBest, hbest, hret⟩ := Checked.bind_eq_ok.mp h
  cases hret
  exact ⟨eBest, hbest, rfl⟩

namespace BoundaryNode

variable [F64 F] [ForeignClockRecords R]

/-- The trigger of each port holds the best foreign data set of its records, and so does the clock
under the number of the port. The clock holds nothing else, and an armed notification carries the
best of what it holds. -/
structure Agreed (node : BoundaryNode F R) : Prop where
  held : ∀ index s, node.HasPort index s →
    s.Synced ∧ node.clock.foreignCandidates.candidate s.handover.port.portIdentity.portNumber =
      s.previous
  others : ∀ number, (∀ index s, node.HasPort index s →
      s.handover.port.portIdentity.portNumber ≠ number) →
    node.clock.foreignCandidates.candidate number = .empty
  broadcast : ∀ timeout ∈ node.clock.portNotification, timeout.deadline ≠ none →
    ∃ eBest, node.clock.foreignCandidates.best = .ok eBest ∧
      timeout.msg = .stateDecisionEvent ⟨node.clock.defaultDs, eBest⟩

/-- Each port reports under its own number, and the candidates are in order. -/
structure Reporting (node : BoundaryNode F R) : Prop where
  valid : node.clock.foreignCandidates.Valid
  received : ∀ index s, node.HasPort index s →
    s.parts.stateDecisionTrigger.receivedOnPort = s.handover.port.portIdentity.portNumber

theorem port_clock {node node' : BoundaryNode F R} {records : R} {l : List (Effect F)}
    (h : (node.act (.port records)).Returns node' l) :
    node'.clock.foreignCandidates = node.clock.foreignCandidates ∧
      node'.clock.defaultDs = node.clock.defaultDs ∧
      ∀ timeout ∈ node'.clock.portNotification, timeout.deadline ≠ none →
        timeout ∈ node.clock.portNotification := by
  obtain ⟨⟨clock, state⟩, hport, hret⟩ := Act.returns_lift_bind.mp h
  obtain ⟨⟨enumeration, number⟩, -, hrest⟩ := Checked.bind_eq_ok.mp hport
  cases number with
  | none =>
    cases hrest
    obtain ⟨rfl, -⟩ := Act.returns_pure.mp hret
    exact ⟨rfl, rfl, fun _ htimeout _ => htimeout⟩
  | some number =>
    obtain ⟨s, -, hpair⟩ := Checked.bind_eq_ok.mp hrest
    cases hpair
    obtain ⟨rfl, -⟩ := Act.returns_pure.mp hret
    refine ⟨rfl, rfl, fun timeout htimeout harmed => ?_⟩
    rcases List.mem_append.mp htimeout with htimeout | htimeout
    · exact htimeout
    · rw [List.mem_singleton.mp htimeout] at harmed
      exact absurd rfl harmed

theorem Agreed.port {actions : List (BoundaryAction R)} {node node' : BoundaryNode F R}
    {records : R} {l : List (Effect F)} (hrecords : ForeignClockRecords.iter records = [])
    (hd : Decided actions node) (hr : node.Reporting) (ha : node.Agreed)
    (h : (node.act (.port records)).Returns node' l) : node'.Reporting ∧ node'.Agreed := by
  obtain ⟨hheld, hds, harmed⟩ := port_clock h
  have hbroadcast : ∀ timeout ∈ node'.clock.portNotification, timeout.deadline ≠ none →
      ∃ eBest, node'.clock.foreignCandidates.best = .ok eBest ∧
        timeout.msg = .stateDecisionEvent ⟨node'.clock.defaultDs, eBest⟩ := by
    rw [hheld, hds]
    exact fun timeout htimeout harm => ha.broadcast timeout (harmed timeout htimeout harm) harm
  rcases port_returns h with rfl | ⟨state, hstate, -, hports⟩
  · exact ⟨hr, ha⟩
  · obtain ⟨-, hidentity, hframe, -⟩ := newPort_state hstate
    obtain ⟨hsynced, hprevious⟩ := newPort_synced hrecords hstate
    have hreceived : state.parts.stateDecisionTrigger.receivedOnPort =
        state.handover.port.portIdentity.portNumber := by
      rw [hidentity]
      exact congrArg PartsFrame.receivedOnPort hframe
    -- No port had the new number before.
    have hfresh : ∀ index s, node.HasPort index s →
        s.handover.port.portIdentity.portNumber ≠ state.handover.port.portIdentity.portNumber := by
      intro index s hs heq
      have hlt : index < node.ports.length := (List.getElem?_eq_some_iff.mp hs).1
      have hnumber := (hd.numbered index s hs).1
      have henumerated := hd.enumerated
      rw [heq, hidentity] at hnumber
      change node.clock.portEnumeration.next.toNat = index + 1 at hnumber
      omega
    refine ⟨⟨?_, ?_⟩, ?_, ?_, hbroadcast⟩
    · rw [hheld]
      exact hr.valid
    · intro index s hs
      rcases (hasPort_append hports).mp hs with hs | ⟨-, rfl⟩
      · exact hr.received index s hs
      · exact hreceived
    · intro index s hs
      rw [hheld]
      rcases (hasPort_append hports).mp hs with hs | ⟨-, rfl⟩
      · exact ha.held index s hs
      · rw [hprevious]
        exact ⟨hsynced, ha.others _ hfresh⟩
    · intro number hnumber
      rw [hheld]
      exact ha.others number fun index s hs =>
        hnumber index s ((hasPort_append hports).mpr (.inl hs))

theorem received_deliver {node node' : BoundaryNode F R} {env : Env} {index : ℕ}
    {input : PortInput} {s s' : PortState F R} {l : List (Effect F)} (hr : node.Reporting)
    (hs : node.HasPort index s) (hports : node'.ports = node.ports.set index (PortFsm.new s'))
    (hstep : (s.step env input).Returns s' l) (j : ℕ) (t : PortState F R) (ht : node'.HasPort j t) :
    t.parts.stateDecisionTrigger.receivedOnPort = t.handover.port.portIdentity.portNumber := by
  rcases (hasPort_set hports hs).mp ht with ⟨-, ht⟩ | ⟨-, rfl⟩
  · exact hr.received j t ht
  · have hframe := step_frame hstep
    have hreceived : t.parts.stateDecisionTrigger.receivedOnPort =
        s.parts.stateDecisionTrigger.receivedOnPort := congrArg (fun f => f.receivedOnPort) hframe
    have hidentity : t.handover.port = s.handover.port := congrArg PortFrame.port hframe
    rw [hreceived, hidentity]
    exact hr.received index s hs

/-- A number that no port has after a step was not in use before it. -/
theorem number_deliver {node node' : BoundaryNode F R} {env : Env} {index : ℕ}
    {input : PortInput} {s s' : PortState F R} {l : List (Effect F)} {number : PortNumber}
    (hs : node.HasPort index s) (hports : node'.ports = node.ports.set index (PortFsm.new s'))
    (hstep : (s.step env input).Returns s' l)
    (h : ∀ j t, node'.HasPort j t → t.handover.port.portIdentity.portNumber ≠ number) (j : ℕ)
    (t : PortState F R) (ht : node.HasPort j t) :
    t.handover.port.portIdentity.portNumber ≠ number := by
  by_cases hj : j = index
  · subst hj
    have heq : some (PortFsm.new t) = some (PortFsm.new s) := ht.symm.trans hs
    cases heq
    have hidentity : s'.handover.port = s.handover.port := congrArg PortFrame.port (step_frame hstep)
    rw [← hidentity]
    exact h j s' ((hasPort_set hports hs).mpr (.inr ⟨rfl, rfl⟩))
  · exact h j t ((hasPort_set hports hs).mpr (.inl ⟨hj, ht⟩))

theorem Agreed.deliver {actions : List (BoundaryAction R)} {node node' : BoundaryNode F R}
    {env : Env} {index : ℕ} {input : PortInput} {l : List (Effect F)} (hd : Decided actions node)
    (hr : node.Reporting) (ha : node.Agreed)
    (h : (node.deliver env index input).Returns node' l) : node'.Reporting ∧ node'.Agreed := by
  rcases deliver_port hd.present h with ⟨-, rfl⟩ | ⟨s, s', hs, hstep, hclock, hports⟩
  · exact ⟨hr, ha⟩
  have hidentity : s'.handover.port = s.handover.port := congrArg PortFrame.port (step_frame hstep)
  have hsynced := step_synced (ha.held index s hs).1 hstep
  have hreceived := received_deliver hr hs hports hstep
  cases step_reported hstep with
  | silent htrigger hlog =>
    rw [notifyClock_silent hlog] at hclock
    have hsame : node'.clock = node.clock := (Except.ok.inj hclock).symm
    refine ⟨⟨?_, hreceived⟩, ?_, ?_, ?_⟩
    · rw [hsame]
      exact hr.valid
    · intro j t ht
      rw [hsame]
      rcases (hasPort_set hports hs).mp ht with ⟨-, ht⟩ | ⟨-, rfl⟩
      · exact ha.held j t ht
      · refine ⟨hsynced, ?_⟩
        rw [hidentity, (ha.held index s hs).2, PortState.previous, PortState.previous, htrigger]
    · intro number hother
      rw [hsame]
      exact ha.others number (number_deliver hs hports hstep hother)
    · rw [hsame]
      exact ha.broadcast
  | reported l₁ hbefore hlog =>
    rw [hlog, notifyClock_reported hbefore] at hclock
    obtain ⟨eBest, hbest, hclock⟩ := BoundaryClock.trigger_eq hclock
    have hnumber : s.parts.stateDecisionTrigger.receivedOnPort =
        s.handover.port.portIdentity.portNumber := hr.received index s hs
    refine ⟨⟨?_, hreceived⟩, ?_, ?_, ?_⟩
    · rw [hclock]
      exact hr.valid.remember _ _
    · intro j t ht
      rw [hclock, hr.valid.candidate_remember, hnumber]
      rcases (hasPort_set hports hs).mp ht with ⟨hj, ht⟩ | ⟨-, rfl⟩
      · rw [if_neg]
        · exact ha.held j t ht
        · intro heq
          have hi := (hd.numbered index s hs).1
          rw [heq, (hd.numbered j t ht).1] at hi
          omega
      · rw [hidentity, if_pos rfl]
        exact ⟨hsynced, rfl⟩
    · intro number hother
      have hunused := number_deliver hs hports hstep hother
      rw [hclock, hr.valid.candidate_remember, hnumber, if_neg (hunused index s hs)]
      exact ha.others number hunused
    · rw [hclock]
      intro timeout htimeout _
      obtain ⟨old, -, rfl⟩ := List.mem_map.mp htimeout
      exact ⟨eBest, hbest, rfl⟩

omit [F64 F] in
theorem agreed_new {ds : ClockDS} {domain : DomainNumber} {numPorts : UInt16}
    {node : BoundaryNode F R} (h : new ds domain numPorts = .ok node) :
    node.Reporting ∧ node.Agreed := by
  obtain ⟨clock, hclock, hret⟩ := Checked.bind_eq_ok.mp h
  obtain ⟨enumeration, -, hpair⟩ := Checked.bind_eq_ok.mp hclock
  cases hpair
  cases hret
  exact ⟨⟨MultiPortForeignCandidates.valid_new, fun index s hs => by simp [HasPort] at hs⟩,
    fun index s hs => by simp [HasPort] at hs, fun _ _ => rfl, by simp⟩

/-- A clock whose ports were created without records agrees with them in every run. -/
theorem run_agreed {ds : ClockDS} {domain : DomainNumber} {numPorts : UInt16}
    {start node : BoundaryNode F R} {actions : List (BoundaryAction R)} {l : List (Effect F)}
    (hrecords : ∀ records, .port records ∈ actions → ForeignClockRecords.iter records = [])
    (hnew : new ds domain numPorts = .ok start) (hrun : (start.run actions).Returns node l) :
    node.Agreed := by
  have hall : Decided actions node ∧ ((∀ records, .port records ∈ actions →
      ForeignClockRecords.iter records = []) → node.Reporting ∧ node.Agreed) := by
    refine Act.runAll_history (P := fun actions node => Decided actions node ∧
      ((∀ records, .port records ∈ actions → ForeignClockRecords.iter records = []) →
        node.Reporting ∧ node.Agreed)) ?_ ?_ hrun
    · exact ⟨decided_run hnew (Act.returns_pure.mpr ⟨rfl, rfl⟩), fun _ => agreed_new hnew⟩
    · rintro actions node action node' l ⟨hd, hagreed⟩ h
      have hbefore : (∀ records, .port records ∈ actions ++ [action] →
          ForeignClockRecords.iter records = []) → node.Reporting ∧ node.Agreed :=
        fun hempty => hagreed fun records hmem => hempty records (List.mem_append_left _ hmem)
      cases action with
      | port records =>
        refine ⟨hd.port h, fun hempty => ?_⟩
        obtain ⟨hr, ha⟩ := hbefore hempty
        exact ha.port (hempty records (by simp)) hd hr h
      | deliver index env input =>
        refine ⟨hd.deliver h, fun hempty => ?_⟩
        obtain ⟨hr, ha⟩ := hbefore hempty
        exact ha.deliver hd hr h
  exact (hall.2 hrecords).2

end BoundaryNode

end Boundary

variable [F64 F] [ForeignClockRecords R]

/-- In every run of a clock whose ports start without records, the trigger of each port holds the
best foreign data set of the records of the port, the clock holds the same under the number of the
port, and what it broadcast last is computed from these. -/
theorem clock_ports_agree :
    (∀ (ds : ClockDS) (domain : DomainNumber) (profile : PortProfile F) (records : R)
      (start node : OrdinaryNode F R) (inputs : List (Env × PortInput)) (l : List (Effect F)),
      ForeignClockRecords.iter records = [] →
      OrdinaryNode.new ds domain profile records = .ok (some start) →
      (start.run inputs).Returns node l → node.Agreed) ∧
    ∀ (ds : ClockDS) (domain : DomainNumber) (numPorts : UInt16) (start node : BoundaryNode F R)
      (actions : List (BoundaryAction R)) (l : List (Effect F)),
      (∀ records, .port records ∈ actions → ForeignClockRecords.iter records = []) →
      BoundaryNode.new ds domain numPorts = .ok start →
      (start.run actions).Returns node l → node.Agreed := by
  constructor
  · intro ds domain profile records start node inputs l hrecords hnew hrun
    exact Act.runAll_preserves (P := OrdinaryNode.Agreed)
      (fun _ _ _ _ hn hs => OrdinaryNode.process_agreed hn hs)
      (OrdinaryNode.agreed_new hrecords hnew) hrun
  · intro ds domain numPorts start node actions l hrecords hnew hrun
    exact BoundaryNode.run_agreed hrecords hnew hrun

/-- The first port of the second clock has heard the first clock, and the clock holds that. -/
theorem clock_ports_agree_two :
    ∃ (start node : BoundaryNode ℚ ForeignClockRecordsVec) (l : List (Effect ℚ)),
      BoundaryNode.new (defaultClock 2) ⟨0⟩ 2 = .ok start ∧
      (start.run twoPortActions).Returns node l ∧ node.Agreed ∧
      node.clock.foreignCandidates.candidate ⟨1⟩ = heardSnapshot.eBest := by
  have hrun : ∃ (start node : BoundaryNode ℚ ForeignClockRecordsVec) (l : List (Effect ℚ)),
      BoundaryNode.new (defaultClock 2) ⟨0⟩ 2 = .ok start ∧
      (start.run twoPortActions).Returns node l ∧
      node.clock.foreignCandidates.candidate ⟨1⟩ = heardSnapshot.eBest :=
    ⟨_, _, _, rfl, rfl, rfl⟩
  obtain ⟨start, node, l, hnew, hrun, hheld⟩ := hrun
  refine ⟨start, node, l, hnew, hrun, ?_, hheld⟩
  refine clock_ports_agree.2 (defaultClock 2) ⟨0⟩ 2 start node twoPortActions l ?_ hnew hrun
  intro records hrecords
  simp only [twoPortActions, List.mem_cons, reduceCtorEq, BoundaryAction.port.injEq,
    List.not_mem_nil, or_false, or_self] at hrecords
  rw [hrecords]
  rfl

end Rptp
