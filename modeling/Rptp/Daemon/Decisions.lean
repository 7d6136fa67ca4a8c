import Rptp.Daemon.Loop
import Rptp.Node.Broadcast

/-! # State decisions in the daemon

The clock sends every state decision to all of its ports at once, and a channel keeps them in order.
So the decision that a port processes last, once none waits for it, is the same for all ports: the
one on what the clock holds.
-/

namespace Rptp

open Machine

variable {F R : Type}

/-- The snapshot of a state decision. -/
def SystemMessage.snapshot? : SystemMessage → Option StateDecisionSnapshot
  | stateDecisionEvent snapshot => some snapshot
  | _ => none

/-- The state decision that a channel delivers last. -/
def lastWaiting (channel : List SystemMessage) : Option StateDecisionSnapshot :=
  (channel.filterMap SystemMessage.snapshot?).getLast?

theorem lastWaiting_append {channel msgs : List SystemMessage}
    (h : ∀ msg ∈ msgs, msg.snapshot? = none) : lastWaiting (channel ++ msgs) = lastWaiting channel := by
  have hnil : msgs.filterMap SystemMessage.snapshot? = [] := List.filterMap_eq_nil_iff.mpr h
  rw [lastWaiting, List.filterMap_append, hnil, List.append_nil]
  rfl

theorem lastWaiting_decision (channel : List SystemMessage) (snapshot : StateDecisionSnapshot) :
    lastWaiting (channel ++ [.stateDecisionEvent snapshot]) = some snapshot := by
  have hfilter : (channel ++ [SystemMessage.stateDecisionEvent snapshot]).filterMap
      SystemMessage.snapshot? = channel.filterMap SystemMessage.snapshot? ++ [snapshot] := by
    rw [List.filterMap_append]
    rfl
  rw [lastWaiting, hfilter, List.getLast?_concat]

/-- The oldest message is delivered last only if no state decision waits behind it. -/
theorem lastWaiting_cons (msg : SystemMessage) (rest : List SystemMessage) :
    lastWaiting (msg :: rest) = (lastWaiting rest).or msg.snapshot? := by
  unfold lastWaiting
  cases hmsg : msg.snapshot? with
  | none => rw [List.filterMap_cons_none hmsg, Option.or_none]
  | some snapshot => rw [List.filterMap_cons_some hmsg, List.getLast?_cons, Option.or_some]

theorem lastWaiting_eq_none {channel : List SystemMessage}
    (h : ∀ msg ∈ channel, msg.snapshot? = none) : lastWaiting channel = none := by
  rw [lastWaiting, List.filterMap_eq_nil_iff.mpr h]
  rfl

theorem snapshot_of_timer {msg : SystemMessage} (h : msg.IsTimer) : msg.snapshot? = none := by
  cases msg
  case stateDecisionEvent snapshot => exact absurd h id
  all_goals rfl

theorem snapshot_of_stamps {egress : TimeStamp} {l : List (Effect F)} :
    ∀ msg ∈ Daemon.stamps egress l, msg.snapshot? = none := by
  intro msg hmsg
  obtain ⟨sent, rfl⟩ := Daemon.mem_stamps hmsg
  rfl

theorem lastDecision_system (index j : ℕ) (env : Env) (msg : SystemMessage)
    (actions : List (BoundaryAction R)) :
    lastDecision j (actions ++ [.deliver index env (.system msg)]) =
      if index = j then msg.snapshot?.or (lastDecision j actions) else lastDecision j actions := by
  rw [lastDecision_append]
  cases msg
  case stateDecisionEvent snapshot => rfl
  all_goals exact (ite_self _).symm

namespace Daemon

variable [F64 F] [ForeignClockRecords R]

/-- The boundary clock of a daemon with its ports. -/
def node (d : Daemon BoundaryClock F R) : BoundaryNode F R := ⟨d.clock, d.ports⟩

/-- The state decisions for every port, first those it processed and then those that wait for it,
end in the same one, on what the clock holds. -/
structure Aligned (actions : List (BoundaryAction R)) (d : Daemon BoundaryClock F R) : Prop where
  decided : d.node.Decided actions
  channels : d.channels.length = d.ports.length
  notified : d.clock.portNotification.length = d.ports.length
  last : ∃ last : Option StateDecisionSnapshot,
    (∀ snapshot ∈ last, d.clock.foreignCandidates.best = .ok snapshot.eBest) ∧
      ∀ j channel, d.channels[j]? = some channel →
        (lastWaiting channel).or (lastDecision j actions) = last

variable {env : Env} {egress : TimeStamp} {index : ℕ} {input : PortInput}
  {d d' : Daemon BoundaryClock F R} {l : List (Effect F)} {actions : List (BoundaryAction R)}

theorem Processed.deliver (h : Processed env egress index input d d' l) :
    (d.node.deliver env index input).Returns d'.node l := by
  unfold BoundaryNode.deliver
  cases h with
  | absent hport hd hlog =>
    have hnone : d.node.ports[index]? = none := hport
    rw [hnone, hd, hlog]
    exact Act.returns_pure.mpr ⟨rfl, rfl⟩
  | quiet s s' hport hstep hlog hd =>
    have hsome : d.node.ports[index]? = some (.new s) := hport
    rw [hsome, hd]
    refine Act.returns_observe_bind.mpr ⟨.new s', l, [], ?_, ?_, (List.append_nil l).symm⟩
    · rw [PortFsm.process_new, map_eq_pure_bind, Act.returns_bind_pure]
      exact ⟨s', hstep, rfl⟩
    · exact Act.returns_lift_bind.mpr ⟨d.clock, notifyClock_silent hlog,
        Act.returns_pure.mpr ⟨rfl, rfl⟩⟩
  | reported s s' clock port l₁ hport hstep hbefore hlog hclock hd =>
    have hsome : d.node.ports[index]? = some (.new s) := hport
    rw [hsome, hd]
    refine Act.returns_observe_bind.mpr ⟨.new s', l, [], ?_, ?_, (List.append_nil l).symm⟩
    · rw [PortFsm.process_new, map_eq_pure_bind, Act.returns_bind_pure]
      exact ⟨s', hstep, rfl⟩
    · refine Act.returns_lift_bind.mpr ⟨clock, ?_, Act.returns_pure.mpr ⟨rfl, rfl⟩⟩
      rw [hlog]
      exact (notifyClock_reported hbefore _ _).trans hclock

theorem Processed.aligned (h : Processed env egress index input d d' l) (hd : d.node.Decided actions)
    (hchannels : d.channels.length = d.ports.length)
    (hnotified : d.clock.portNotification.length = d.ports.length)
    (hlast : ∃ last : Option StateDecisionSnapshot,
      (∀ snapshot ∈ last, d.clock.foreignCandidates.best = .ok snapshot.eBest) ∧
        ∀ j channel, d.channels[j]? = some channel →
          (lastWaiting channel).or (lastDecision j (actions ++ [.deliver index env input])) = last) :
    Aligned (actions ++ [.deliver index env input]) d' := by
  have hdecided := hd.deliver h.deliver
  cases h with
  | absent hport hd hlog =>
    subst hd
    exact ⟨hdecided, hchannels, hnotified, hlast⟩
  | quiet s s' hport hstep hlog hd =>
    subst hd
    obtain ⟨last, hbest, hlast⟩ := hlast
    refine ⟨hdecided, ?_, ?_, last, hbest, fun j channel hchannel => ?_⟩
    · rw [length_post, List.length_set]
      exact hchannels
    · rw [List.length_set]
      exact hnotified
    · rw [getElem?_post] at hchannel
      obtain ⟨channel, hold, rfl⟩ := Option.map_eq_some_iff.mp hchannel
      rw [← hlast j channel hold]
      split_ifs
      · rw [lastWaiting_append snapshot_of_stamps]
      · rfl
  | reported s s' clock port l₁ hport hstep hbefore hlog hclock hd =>
    subst hd
    obtain ⟨eBest, hbest, rfl⟩ := BoundaryClock.trigger_eq hclock
    refine ⟨hdecided, ?_, ?_, some ⟨d.clock.defaultDs, eBest⟩, ?_, fun j channel hchannel => ?_⟩
    · change (List.zipWith _ _ (List.map _ _)).length = _
      rw [List.length_zipWith, List.length_map, length_post, List.length_set, hchannels, hnotified,
        min_self]
    · rw [List.length_map, List.length_set]
      exact hnotified
    · rintro snapshot ⟨⟩
      exact hbest
    · -- Every channel ends in the decision that the clock just sent.
      rw [List.getElem?_zipWith_eq_some] at hchannel
      obtain ⟨old, timeout, -, htimeout, rfl⟩ := hchannel
      obtain ⟨before, -, rfl⟩ := List.mem_map.mp (List.mem_of_getElem? htimeout)
      have hmsg : (before.restartWithMessage env
          (.stateDecisionEvent ⟨d.clock.defaultDs, eBest⟩) (.fromSecs 0)).msg =
          .stateDecisionEvent ⟨d.clock.defaultDs, eBest⟩ := rfl
      rw [hmsg, lastWaiting_decision, Option.some_or]

theorem Aligned.step {event : DaemonEvent} (ha : Aligned actions d)
    (h : (d.step event).Returns d' l) : ∃ actions', Aligned (actions ++ actions') d' := by
  obtain ⟨last, hbest, hlast⟩ := ha.last
  cases step_returns h with
  | idle hd hlog =>
    subst hd
    exact ⟨[], by rwa [List.append_nil]⟩
  | elapsed msg htimer hd hlog =>
    subst hd
    refine ⟨[], ?_⟩
    rw [List.append_nil]
    refine ⟨ha.decided, ?_, ha.notified, last, hbest, fun j channel hchannel => ?_⟩
    · rw [length_post]
      exact ha.channels
    · rw [getElem?_post] at hchannel
      obtain ⟨channel, hold, rfl⟩ := Option.map_eq_some_iff.mp hchannel
      rw [← hlast j channel hold]
      split_ifs
      · rw [lastWaiting_append]
        rintro msg' hmsg'
        rw [List.mem_singleton.mp hmsg']
        exact snapshot_of_timer htimer
      · rfl
  | received env egress msg rest hegress hchannel hprocess =>
    refine ⟨[.deliver event.index env (.system msg)], ?_⟩
    have hprocessed := process_returns (d := { d with channels := d.channels.set event.index rest })
      ha.decided.present hprocess
    refine hprocessed.aligned ha.decided ?_ ha.notified ⟨last, hbest, fun j channel hj => ?_⟩
    · change (d.channels.set event.index rest).length = d.ports.length
      rw [List.length_set]
      exact ha.channels
    · have hlt : event.index < d.channels.length := (List.getElem?_eq_some_iff.mp hchannel).1
      rw [lastDecision_system]
      change (d.channels.set event.index rest)[j]? = some channel at hj
      rw [List.getElem?_set] at hj
      by_cases hij : event.index = j
      · subst hij
        rw [if_pos rfl, if_pos hlt] at hj
        cases hj
        rw [if_pos rfl, ← Option.or_assoc, ← lastWaiting_cons]
        exact hlast event.index _ hchannel
      · rw [if_neg hij] at hj
        rw [if_neg hij]
        exact hlast j channel hj
  | arrived env egress input hegress hinput hprocess =>
    have hdecision : ¬ input.IsDecision := by
      intro hin
      obtain ⟨snapshot, rfl⟩ := hin.eq
      cases hinput _ rfl
    refine ⟨[.deliver event.index env input], ?_⟩
    refine (process_returns ha.decided.present hprocess).aligned ha.decided ha.channels ha.notified
      ⟨last, hbest, fun j channel hj => ?_⟩
    rw [lastDecision_other (.inr hdecision)]
    exact hlast j channel hj

/-- The state decisions stay aligned, whatever the order in which the loops run. -/
theorem Aligned.run {events : List DaemonEvent} (ha : Aligned actions d)
    (h : (d.run events).Returns d' l) : ∃ actions', Aligned actions' d' :=
  Act.runAll_preserves (P := fun d => ∃ actions, Aligned actions d)
    (fun _ _ _ _ hd hstep => by
      obtain ⟨actions, hd⟩ := hd
      obtain ⟨actions', hd⟩ := hd.step hstep
      exact ⟨_, hd⟩) ⟨actions, ha⟩ h

theorem port_notified {node node' : BoundaryNode F R} {record : R}
    (hnode : node.clock.portNotification.length = node.ports.length)
    (h : (node.act (.port record)).Returns node' l) :
    node'.clock.portNotification.length = node'.ports.length := by
  obtain ⟨⟨clock, state⟩, hport, hret⟩ := Act.returns_lift_bind.mp h
  obtain ⟨⟨enumeration, number⟩, -, hrest⟩ := Checked.bind_eq_ok.mp hport
  cases number with
  | none =>
    cases hrest
    obtain ⟨rfl, -⟩ := Act.returns_pure.mp hret
    exact hnode
  | some number =>
    obtain ⟨s, -, hpair⟩ := Checked.bind_eq_ok.mp hrest
    cases hpair
    obtain ⟨rfl, -⟩ := Act.returns_pure.mp hret
    rw [List.length_append, List.length_append, hnode]
    rfl

omit [ForeignClockRecords R] in
theorem lastDecision_port (index : ℕ) (records : List R) :
    lastDecision index (records.map .port) = none := by
  induction records using List.reverseRecOn with
  | nil => rfl
  | append_singleton records record ih =>
    rw [List.map_append]
    exact (lastDecision_append index _ _).trans ih

theorem aligned_new {ds : ClockDS} {domain : DomainNumber} {numPorts : UInt16}
    {start node : BoundaryNode F R} {records : List R}
    (hnew : BoundaryNode.new ds domain numPorts = .ok start)
    (hports : (start.run (records.map .port)).Returns node l) :
    Aligned (records.map .port) (Daemon.new domain node.clock node.ports) := by
  have hnotified : (∀ action ∈ records.map BoundaryAction.port, ∃ record, action = .port record) →
      node.clock.portNotification.length = node.ports.length := by
    refine Act.runAll_history (P := fun actions node =>
      (∀ action ∈ actions, ∃ record, action = BoundaryAction.port record) →
        node.clock.portNotification.length = node.ports.length) ?_ ?_ hports
    · obtain ⟨clock, hclock, hret⟩ := Checked.bind_eq_ok.mp hnew
      obtain ⟨enumeration, -, hpair⟩ := Checked.bind_eq_ok.mp hclock
      cases hpair
      cases hret
      exact fun _ => rfl
    · intro actions node action node' l hnode hact hall
      obtain ⟨record, rfl⟩ := hall action (List.mem_append_right _ List.mem_cons_self)
      exact port_notified
        (hnode fun action haction => hall action (List.mem_append_left _ haction)) hact
  refine ⟨BoundaryNode.decided_run hnew hports, List.length_map _, hnotified ?_, none, ?_, ?_⟩
  · intro action haction
    obtain ⟨record, -, rfl⟩ := List.mem_map.mp haction
    exact ⟨record, rfl⟩
  · rintro snapshot ⟨⟩
  · intro j channel hchannel
    obtain ⟨fsm, -, rfl⟩ := List.mem_map.mp (List.mem_of_getElem? hchannel)
    rw [lastDecision_port]
    rfl

omit [F64 F] [ForeignClockRecords R] in
/-- Once no state decision waits, a port that tracks a parent tracks the best candidate of the clock,
which it has received itself. -/
theorem Aligned.tracks (ha : Aligned actions d)
    (hdrained : ∀ channel ∈ d.channels, ∀ msg ∈ channel, msg.snapshot? = none) {s : PortState F R}
    {parent : ParentPortIdentity} (hs : d.ports[index]? = some (PortFsm.new s))
    (htracks : s.role.Tracks parent) : ∃ ds receiver,
      d.clock.foreignCandidates.best =
        .ok (.qualified ds parent.parentPortIdentity receiver) ∧
      receiver.portNumber.value.toNat = index + 1 := by
  obtain ⟨last, hbest, hlast⟩ := ha.last
  obtain ⟨snapshot, hdecision, hselects⟩ := ha.decided.selected index s parent hs htracks
  obtain ⟨-, ds, source, receiver, heq, hport, rfl, -⟩ := hselects.eBest
  have hindex : index < d.channels.length := by
    rw [ha.channels]
    exact (List.getElem?_eq_some_iff.mp hs).1
  have hchannel : d.channels[index]? = some d.channels[index] := List.getElem?_eq_getElem hindex
  have hwaiting : lastWaiting d.channels[index] = none :=
    lastWaiting_eq_none (hdrained _ (List.mem_of_getElem? hchannel))
  have hsnapshot : some snapshot = last := by
    rw [← hlast index _ hchannel, hwaiting, hdecision, Option.none_or]
  refine ⟨ds, receiver, ?_, ?_⟩
  · rw [hbest snapshot hsnapshot.symm, heq]
  · have hnumber := ha.decided.numbered index s hs
    rw [hport, hnumber.2]
    exact hnumber.1

end Daemon

variable [F64 F] [ForeignClockRecords R]

/-- A boundary clock in the daemon: whatever the order of timers, datagrams and the loops of the
ports, in every state in which no state decision waits in a channel at most one port tracks a parent,
and the parent is the sender of the best candidate that the clock holds, received on that port. -/
theorem daemon_single_slave {ds : ClockDS} {domain : DomainNumber} {numPorts : UInt16}
    {start node : BoundaryNode F R} {records : List R} {d : Daemon BoundaryClock F R}
    {events : List DaemonEvent} {l₀ l : List (Effect F)}
    (hnew : BoundaryNode.new ds domain numPorts = .ok start)
    (hports : (start.run (records.map .port)).Returns node l₀)
    (hrun : ((Daemon.new domain node.clock node.ports).run events).Returns d l)
    (hdrained : ∀ channel ∈ d.channels, ∀ msg ∈ channel, msg.snapshot? = none) :
    ∀ index s parent, d.ports[index]? = some (PortFsm.new s) → s.role.Tracks parent →
      (∃ ds receiver, d.clock.foreignCandidates.best =
          .ok (.qualified ds parent.parentPortIdentity receiver) ∧
        receiver.portNumber.value.toNat = index + 1) ∧
      ∀ j t parent', d.ports[j]? = some (PortFsm.new t) → t.role.Tracks parent' → j = index := by
  obtain ⟨actions, ha⟩ := (Daemon.aligned_new hnew hports).run hrun
  intro index s parent hs hsTracks
  obtain ⟨ds, receiver, hbest, hnumber⟩ := ha.tracks hdrained hs hsTracks
  refine ⟨⟨ds, receiver, hbest, hnumber⟩, fun j t parent' ht htTracks => ?_⟩
  obtain ⟨ds', receiver', hbest', hnumber'⟩ := ha.tracks hdrained ht htTracks
  have hsame : receiver' = receiver := by
    rw [hbest] at hbest'
    injection hbest' with hsnapshot
    injection hsnapshot with _ _ hreceiver
    exact hreceiver.symm
  rw [hsame] at hnumber'
  omega

/-- The first clock announces itself. -/
def announcement (sequenceId : UInt16) : Datagram :=
  .general (GeneralMessage.toWire (announceOfFirst sequenceId)
    (.new ⟨0⟩ ⟨(defaultClock 1).identity, ⟨1⟩⟩))

def heardFirst (secs : UInt32) (sequenceId : UInt16) : DaemonEvent :=
  .datagram 0 (.calm (.fromSecs secs)) (stampOf 0) (stampOf 0) (.fromSecs secs)
    (announcement sequenceId)

def loopStarts (index : ℕ) : DaemonEvent := .initialized index (.calm (.fromSecs 0)) (stampOf 0)

def loopReceives (index : ℕ) : DaemonEvent := .receive index (.calm (.fromSecs 1)) (stampOf 0)

/-- The first port of the second clock hears the first clock, and both ports take the decision. -/
def twoPortEvents : List DaemonEvent :=
  [loopStarts 0, loopStarts 1, heardFirst 0 0, heardFirst 1 1, loopReceives 1, loopReceives 0]

theorem daemon_single_slave_two :
    ∃ (start node : BoundaryNode ℚ ForeignClockRecordsVec)
      (d : Daemon BoundaryClock ℚ ForeignClockRecordsVec) (l₀ l : List (Effect ℚ)),
      BoundaryNode.new (defaultClock 2) ⟨0⟩ 2 = .ok start ∧
      (start.run ([.new, .new].map .port)).Returns node l₀ ∧
      ((Daemon.new ⟨0⟩ node.clock node.ports).run twoPortEvents).Returns d l ∧
      d.ports.length = 2 ∧
      (∃ s, d.ports[0]? = some (PortFsm.new s) ∧ s.role.Tracks ⟨⟨(defaultClock 1).identity, ⟨1⟩⟩⟩) ∧
      ∀ j t parent, d.ports[j]? = some (PortFsm.new t) → t.role.Tracks parent → j = 0 := by
  have hrun : ∃ (start node : BoundaryNode ℚ ForeignClockRecordsVec)
      (d : Daemon BoundaryClock ℚ ForeignClockRecordsVec) (l₀ l : List (Effect ℚ)) (s : _),
      BoundaryNode.new (defaultClock 2) ⟨0⟩ 2 = .ok start ∧
      (start.run ([.new, .new].map .port)).Returns node l₀ ∧
      ((Daemon.new ⟨0⟩ node.clock node.ports).run twoPortEvents).Returns d l ∧
      d.ports.length = 2 ∧ d.channels = [[], []] ∧
      d.ports[0]? = some (PortFsm.new s) ∧ s.role.Tracks ⟨⟨(defaultClock 1).identity, ⟨1⟩⟩⟩ :=
    ⟨_, _, _, _, _, _, rfl, rfl, rfl, rfl, rfl, rfl, rfl⟩
  obtain ⟨start, node, d, l₀, l, s, hnew, hports, hrun, hlength, hchannels, hs, ht⟩ := hrun
  have hdrained : ∀ channel ∈ d.channels, ∀ msg ∈ channel, msg.snapshot? = none := by
    rw [hchannels]
    simp
  exact ⟨start, node, d, l₀, l, hnew, hports, hrun, hlength, ⟨s, hs, ht⟩,
    (daemon_single_slave hnew hports hrun hdrained 0 s _ hs ht).2⟩

end Rptp
