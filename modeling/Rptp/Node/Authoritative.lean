import Rptp.Node.Broadcast

/-! # An authoritative clock is never disciplined

A port follows a parent only by a state decision, and no state decision on an authoritative data set
is to follow one. The decisions that reach a port are the ones that its clock has sent, whenever and
however often they are delivered, and these are on the data set of the clock.
-/

namespace Rptp

open Machine

variable {F R : Type}

/-- The calls of a port that is synchronizing its clock. -/
def Effect.Disciplines : Effect F → Prop
  | .sendEvent (.delayReq _) .. => True
  | .servoFeed _ => True
  | .step _ => True
  | .adjust _ => True
  | _ => False

theorem Role.not_disciplines {frame : PartsFrame} {r : Role} (hr : ∀ parent, ¬ r.Tracks parent)
    {e : Effect F} (he : r.Performs frame e) : ¬ e.Disciplines := by
  intro hd
  cases e with
  | sendEvent msg buf result =>
    cases msg with
    | delayReq msg =>
      obtain ⟨parent, ht⟩ := he
      exact hr parent ht
    | oneStepSync msg => exact hd
    | twoStepSync msg => exact hd
  | servoFeed sample =>
    obtain ⟨parent, ht⟩ := he
    exact hr parent ht
  | step ts =>
    obtain ⟨parent, ht⟩ := he
    exact hr parent ht
  | adjust rate =>
    obtain ⟨parent, ht⟩ := he
    exact hr parent ht
  | sendGeneral msg buf result => exact hd
  | stampEgress msg => exact hd
  | recordOffsetFromMaster offset => exact hd
  | trigger port e => exact hd

/-- What reaches a port: a message of the network or of one of its own timers, or one of the state
decisions that its clock has sent. -/
inductive Arrival where
  | message (input : PortInput) (h : ¬ input.IsDecision)
  | notification (number : ℕ)

def Arrival.input (sent : List SystemMessage) : Arrival → Option PortInput
  | message input _ => some input
  | notification number => sent[number]?.map PortInput.system

/-- A state decision on a data set. -/
def SystemMessage.Decides (ds : ClockDS) (msg : SystemMessage) : Prop :=
  ∃ eBest, msg = .stateDecisionEvent ⟨ds, eBest⟩

/-- Every state decision that arrives is on the data set that all sent ones are on. -/
theorem Arrival.decides {ds : ClockDS} {sent : List SystemMessage} {a : Arrival} {input : PortInput}
    {snapshot : StateDecisionSnapshot} (hsent : ∀ msg ∈ sent, msg.Decides ds)
    (ha : a.input sent = some input) (hinput : input = .system (.stateDecisionEvent snapshot)) :
    snapshot.d0 = ds := by
  cases a with
  | message input' h =>
    cases ha
    rw [hinput] at h
    exact absurd trivial h
  | notification number =>
    obtain ⟨msg, hmsg, rfl⟩ := Option.map_eq_some_iff.mp ha
    obtain ⟨eBest, hdecides⟩ := hsent msg (List.mem_of_getElem? hmsg)
    cases hinput
    cases hdecides
    rfl

section Port

variable [F64 F] [ForeignClockRecords R]

/-- A port that tracks nothing goes on to track nothing, while its state decisions are on an
authoritative data set. -/
theorem step_untracked {env : Env} {s s' : PortState F R} {input : PortInput}
    {l : List (Effect F)} (hs : ∀ parent, ¬ s.role.Tracks parent)
    (hin : ∀ snapshot, input = .system (.stateDecisionEvent snapshot) →
      snapshot.d0.isAuthoritative = true)
    (h : (s.step env input).Returns s' l) :
    (∀ parent, ¬ s'.role.Tracks parent) ∧ ∀ e ∈ l, ¬ e.Disciplines := by
  constructor
  · intro parent ht
    by_cases hdecision : input.IsDecision
    · cases input with
      | event source msg ts => cases hdecision
      | general source msg now => cases hdecision
      | system msg =>
        cases msg
        case stateDecisionEvent snapshot =>
          have hfalse := (step_decision_selects h ht).eBest.1
          rw [hin snapshot rfl] at hfalse
          cases hfalse
        all_goals cases hdecision
    · exact hs parent (step_other_tracks hdecision h ht)
  · intro e he
    exact Role.not_disciplines hs (step_only env s input s' l h e he)

/-- The driver holds a port that tracks nothing. -/
def PortFsm.Untracked (fsm : PortFsm F R) : Prop :=
  ∃ s, fsm = .new s ∧ ∀ parent, ¬ s.role.Tracks parent

omit [F64 F] [ForeignClockRecords R] in
theorem PortFsm.Untracked.tracking {fsm : PortFsm F R} (h : fsm.Untracked) {s : PortState F R}
    (hs : fsm.state = some s) : s.tracking = none := by
  obtain ⟨t, rfl, ht⟩ := h
  cases hs
  exact PortState.tracking_eq_none ht

omit [F64 F] in
theorem newPort_untracked {profile : PortProfile F} {ds : ClockDS} {domain : DomainNumber}
    {number : PortNumber} {records : R} {s : PortState F R}
    (h : newPort profile ds domain number records = .ok s) : (PortFsm.new s).Untracked := by
  refine ⟨s, rfl, fun parent => ?_⟩
  rw [(newPort_state h).1]
  exact id

theorem PortFsm.Untracked.process {env : Env} {fsm fsm' : PortFsm F R} {input : PortInput}
    {l : List (Effect F)} (hfsm : fsm.Untracked)
    (hin : ∀ snapshot, input = .system (.stateDecisionEvent snapshot) →
      snapshot.d0.isAuthoritative = true)
    (h : (fsm.process env input).Returns fsm' l) :
    fsm'.Untracked ∧ ∀ e ∈ l, ¬ e.Disciplines := by
  obtain ⟨s, rfl, hs⟩ := hfsm
  rw [PortFsm.process_new, map_eq_pure_bind, Act.returns_bind_pure] at h
  obtain ⟨s', hstep, rfl⟩ := h
  obtain ⟨hs', hl⟩ := step_untracked hs hin hstep
  exact ⟨⟨s', rfl, hs'⟩, hl⟩

end Port

section Ordinary

theorem OrdinaryClock.notifyClock_decides {env : Env} {clock clock' : OrdinaryClock F}
    {calls : List (Effect F)}
    (hclock : ∀ timeout ∈ clock.portNotification, timeout.msg.Decides clock.defaultDs)
    (h : notifyClock env clock calls = .ok clock') :
    ∀ timeout ∈ clock'.portNotification, timeout.msg.Decides clock'.defaultDs := by
  refine Checked.foldlM_preserves (P := fun c : OrdinaryClock F =>
    ∀ timeout ∈ c.portNotification, timeout.msg.Decides c.defaultDs) ?_ hclock h
  intro c call c' hc hcall
  cases call
  case trigger port e =>
    rw [trigger_eq hcall]
    intro timeout htimeout
    obtain ⟨old, -, rfl⟩ := Option.mem_map.mp htimeout
    exact ⟨_, rfl⟩
  all_goals
    cases hcall
    exact hc

/-- An ordinary clock with its port and the state decisions that it has sent so far. -/
structure OrdinaryWorld (F R : Type) where
  node : OrdinaryNode F R
  sent : List SystemMessage

namespace OrdinaryWorld

/-- The notification of the clock, once it has a port. -/
def start (node : OrdinaryNode F R) : OrdinaryWorld F R :=
  ⟨node, node.clock.portNotification.toList.map Timeout.msg⟩

variable [F64 F] [ForeignClockRecords R]

def step (w : OrdinaryWorld F R) (i : Env × Arrival) : Act (Effect F) (OrdinaryWorld F R) :=
  match i.2.input w.sent with
  | some input => do
    let node ← w.node.process i.1 input
    pure ⟨node, w.sent ++ node.clock.portNotification.toList.map Timeout.msg⟩
  | none => pure w

def run (w : OrdinaryWorld F R) (arrivals : List (Env × Arrival)) :
    Act (Effect F) (OrdinaryWorld F R) :=
  Act.runAll step w arrivals

/-- All that the clock sends is on its data set, and its port tracks nothing. -/
structure Undisciplined (ds : ClockDS) (w : OrdinaryWorld F R) : Prop where
  clock : w.node.clock.defaultDs = ds
  notification : ∀ timeout ∈ w.node.clock.portNotification, timeout.msg.Decides ds
  sent : ∀ msg ∈ w.sent, msg.Decides ds
  port : w.node.fsm.Untracked

omit [F64 F] in
theorem undisciplined_start {ds : ClockDS} {domain : DomainNumber} {profile : PortProfile F}
    {records : R} {node : OrdinaryNode F R}
    (h : OrdinaryNode.new ds domain profile records = .ok (some node)) :
    (start node).Undisciplined ds := by
  obtain ⟨state, hstate, hnode⟩ := Checked.bind_eq_ok.mp h
  cases hstate
  obtain ⟨⟨clock, port⟩, hport, hret⟩ := Checked.bind_eq_ok.mp hnode
  obtain ⟨numbered, hnumber, hnew⟩ := Checked.bind_eq_ok.mp hport
  cases hnumber
  obtain ⟨s, hs, hpair⟩ := Checked.bind_eq_ok.mp hnew
  cases hpair
  cases hret
  refine ⟨rfl, ?_, ?_, newPort_untracked hs⟩
  · intro timeout htimeout
    cases htimeout
    exact ⟨_, rfl⟩
  · intro msg hmsg
    rw [List.mem_singleton.mp hmsg]
    exact ⟨_, rfl⟩

theorem Undisciplined.step {ds : ClockDS} (hds : ds.isAuthoritative = true)
    {w w' : OrdinaryWorld F R} {i : Env × Arrival} {l : List (Effect F)} (hw : w.Undisciplined ds)
    (h : (w.step i).Returns w' l) : w'.Undisciplined ds ∧ ∀ e ∈ l, ¬ e.Disciplines := by
  unfold OrdinaryWorld.step at h
  cases hinput : i.2.input w.sent with
  | none =>
    rw [hinput] at h
    obtain ⟨rfl, rfl⟩ := Act.returns_pure.mp h
    exact ⟨hw, by simp⟩
  | some input =>
    rw [hinput] at h
    obtain ⟨node, hprocess, rfl⟩ := Act.returns_bind_pure.mp h
    obtain ⟨hfsm, hclock⟩ := OrdinaryNode.process_returns hprocess
    obtain ⟨hport, hl⟩ := hw.port.process (fun snapshot hsnapshot => by
      rw [Arrival.decides hw.sent hinput hsnapshot]
      exact hds) hfsm
    have hkeeps : node.clock.defaultDs = ds :=
      (OrdinaryClock.notifyClock_keeps hclock).trans hw.clock
    have hnotification : ∀ timeout ∈ node.clock.portNotification, timeout.msg.Decides ds := by
      rw [← hkeeps]
      apply OrdinaryClock.notifyClock_decides _ hclock
      rw [hw.clock]
      exact hw.notification
    refine ⟨⟨hkeeps, hnotification, ?_, hport⟩, hl⟩
    intro msg hmsg
    rcases List.mem_append.mp hmsg with hmsg | hmsg
    · exact hw.sent msg hmsg
    · obtain ⟨timeout, htimeout, rfl⟩ := List.mem_map.mp hmsg
      exact hnotification timeout (Option.mem_toList.mp htimeout)

end OrdinaryWorld

end Ordinary

section Boundary

theorem BoundaryClock.notifyClock_decides {env : Env} {clock clock' : BoundaryClock}
    {calls : List (Effect F)}
    (hclock : ∀ timeout ∈ clock.portNotification, timeout.msg.Decides clock.defaultDs)
    (h : notifyClock env clock calls = .ok clock') :
    ∀ timeout ∈ clock'.portNotification, timeout.msg.Decides clock'.defaultDs := by
  refine Checked.foldlM_preserves (P := fun c : BoundaryClock =>
    ∀ timeout ∈ c.portNotification, timeout.msg.Decides c.defaultDs) ?_ hclock h
  intro c call c' hc hcall
  cases call
  case trigger port e =>
    obtain ⟨eBest, -, rfl⟩ := trigger_eq hcall
    intro timeout htimeout
    obtain ⟨old, -, rfl⟩ := List.mem_map.mp htimeout
    exact ⟨_, rfl⟩
  all_goals
    cases hcall
    exact hc

/-- A boundary clock with its ports and the state decisions that it has sent so far. -/
structure BoundaryWorld (F R : Type) where
  node : BoundaryNode F R
  sent : List SystemMessage

/-- What happens next at a boundary clock: a port is created, or something reaches a port. -/
inductive BoundaryEvent (R : Type) where
  | port (records : R)
  | arrive (index : ℕ) (env : Env) (arrival : Arrival)

/-- The action of the node, if what arrives has been sent. -/
def BoundaryEvent.action (sent : List SystemMessage) : BoundaryEvent R → Option (BoundaryAction R)
  | port records => some (.port records)
  | arrive index env arrival => (arrival.input sent).map (.deliver index env)

namespace BoundaryWorld

def start (node : BoundaryNode F R) : BoundaryWorld F R :=
  ⟨node, node.clock.portNotification.map Timeout.msg⟩

variable [F64 F] [ForeignClockRecords R]

def step (w : BoundaryWorld F R) (event : BoundaryEvent R) : Act (Effect F) (BoundaryWorld F R) :=
  match event.action w.sent with
  | some action => do
    let node ← w.node.act action
    pure ⟨node, w.sent ++ node.clock.portNotification.map Timeout.msg⟩
  | none => pure w

def run (w : BoundaryWorld F R) (events : List (BoundaryEvent R)) :
    Act (Effect F) (BoundaryWorld F R) :=
  Act.runAll step w events

/-- All that the clock sends is on its data set, and its ports track nothing. -/
structure Undisciplined (ds : ClockDS) (w : BoundaryWorld F R) : Prop where
  clock : w.node.clock.defaultDs = ds
  notification : ∀ timeout ∈ w.node.clock.portNotification, timeout.msg.Decides ds
  sent : ∀ msg ∈ w.sent, msg.Decides ds
  ports : ∀ fsm ∈ w.node.ports, fsm.Untracked

omit [F64 F] [ForeignClockRecords R] in
/-- What holds of a node and of what was sent before holds with the notifications of the node. -/
theorem undisciplined_of_node {ds : ClockDS} {node : BoundaryNode F R} {sent : List SystemMessage}
    (hclock : node.clock.defaultDs = ds)
    (hnotification : ∀ timeout ∈ node.clock.portNotification, timeout.msg.Decides ds)
    (hsent : ∀ msg ∈ sent, msg.Decides ds) (hports : ∀ fsm ∈ node.ports, fsm.Untracked) :
    Undisciplined ds ⟨node, sent ++ node.clock.portNotification.map Timeout.msg⟩ := by
  refine ⟨hclock, hnotification, fun msg hmsg => ?_, hports⟩
  rcases List.mem_append.mp hmsg with hmsg | hmsg
  · exact hsent msg hmsg
  · obtain ⟨timeout, htimeout, rfl⟩ := List.mem_map.mp hmsg
    exact hnotification timeout htimeout

theorem Undisciplined.port {ds : ClockDS} {w : BoundaryWorld F R} {node : BoundaryNode F R}
    {records : R} {l : List (Effect F)} (hw : w.Undisciplined ds)
    (h : (w.node.act (.port records)).Returns node l) :
    node.clock.defaultDs = ds ∧
      (∀ timeout ∈ node.clock.portNotification, timeout.msg.Decides ds) ∧
      (∀ fsm ∈ node.ports, fsm.Untracked) ∧ l = [] := by
  obtain ⟨⟨clock, state⟩, hport, hret⟩ := Act.returns_lift_bind.mp h
  obtain ⟨⟨enumeration, number⟩, -, hrest⟩ := Checked.bind_eq_ok.mp hport
  cases number with
  | none =>
    cases hrest
    obtain ⟨rfl, rfl⟩ := Act.returns_pure.mp hret
    exact ⟨hw.clock, hw.notification, hw.ports, rfl⟩
  | some number =>
    obtain ⟨s, hs, hpair⟩ := Checked.bind_eq_ok.mp hrest
    cases hpair
    obtain ⟨rfl, rfl⟩ := Act.returns_pure.mp hret
    refine ⟨hw.clock, ?_, ?_, rfl⟩
    · intro timeout htimeout
      rcases List.mem_append.mp htimeout with htimeout | htimeout
      · exact hw.notification timeout htimeout
      · rw [List.mem_singleton.mp htimeout, ← hw.clock]
        exact ⟨_, rfl⟩
    · intro fsm hfsm
      rcases List.mem_append.mp hfsm with hfsm | hfsm
      · exact hw.ports fsm hfsm
      · rw [List.mem_singleton.mp hfsm]
        exact newPort_untracked hs

theorem Undisciplined.deliver {ds : ClockDS} (hds : ds.isAuthoritative = true)
    {w : BoundaryWorld F R} {node : BoundaryNode F R} {index : ℕ} {env : Env} {arrival : Arrival}
    {input : PortInput} {l : List (Effect F)} (hw : w.Undisciplined ds)
    (hinput : arrival.input w.sent = some input)
    (h : (w.node.deliver env index input).Returns node l) :
    node.clock.defaultDs = ds ∧
      (∀ timeout ∈ node.clock.portNotification, timeout.msg.Decides ds) ∧
      (∀ fsm ∈ node.ports, fsm.Untracked) ∧ ∀ e ∈ l, ¬ e.Disciplines := by
  rcases BoundaryNode.deliver_returns h with ⟨hnone, rfl⟩ |
    ⟨fsm, fsm', clock, hfsm, hprocess, hnotify, rfl⟩
  · unfold BoundaryNode.deliver at h
    rw [hnone] at h
    obtain ⟨-, rfl⟩ := Act.returns_pure.mp h
    exact ⟨hw.clock, hw.notification, hw.ports, by simp⟩
  · obtain ⟨hport, hl⟩ := (hw.ports fsm (List.mem_of_getElem? hfsm)).process
      (fun snapshot hsnapshot => by
        rw [Arrival.decides hw.sent hinput hsnapshot]
        exact hds) hprocess
    have hkeeps : clock.defaultDs = ds :=
      (BoundaryClock.notifyClock_keeps hnotify).1.trans hw.clock
    refine ⟨hkeeps, ?_, ?_, hl⟩
    · rw [← hkeeps]
      apply BoundaryClock.notifyClock_decides _ hnotify
      rw [hw.clock]
      exact hw.notification
    · intro g hg
      rcases List.mem_or_eq_of_mem_set hg with hg | rfl
      · exact hw.ports g hg
      · exact hport

theorem Undisciplined.step {ds : ClockDS} (hds : ds.isAuthoritative = true)
    {w w' : BoundaryWorld F R} {event : BoundaryEvent R} {l : List (Effect F)}
    (hw : w.Undisciplined ds) (h : (w.step event).Returns w' l) :
    w'.Undisciplined ds ∧ ∀ e ∈ l, ¬ e.Disciplines := by
  unfold BoundaryWorld.step at h
  cases event with
  | port records =>
    obtain ⟨node, hact, rfl⟩ := Act.returns_bind_pure.mp h
    obtain ⟨hclock, hnotification, hports, rfl⟩ := hw.port hact
    exact ⟨undisciplined_of_node hclock hnotification hw.sent hports, by simp⟩
  | arrive index env arrival =>
    cases hinput : arrival.input w.sent with
    | none =>
      rw [BoundaryEvent.action, hinput] at h
      obtain ⟨rfl, rfl⟩ := Act.returns_pure.mp h
      exact ⟨hw, by simp⟩
    | some input =>
      rw [BoundaryEvent.action, hinput] at h
      obtain ⟨node, hact, rfl⟩ := Act.returns_bind_pure.mp h
      obtain ⟨hclock, hnotification, hports, hl⟩ := hw.deliver hds hinput hact
      exact ⟨undisciplined_of_node hclock hnotification hw.sent hports, hl⟩

end BoundaryWorld

end Boundary

variable [F64 F] [ForeignClockRecords R]

/-- No port of a clock of class 1 to 127 is ever uncalibrated or a slave, and none of them requests a
delay, feeds a servo, steps the local clock or adjusts it. -/
theorem authoritative_undisciplined (ds : ClockDS)
    (hclass : 1 ≤ ds.quality.clockClass.asU8.toNat ∧ ds.quality.clockClass.asU8.toNat ≤ 127) :
    (∀ (domain : DomainNumber) (profile : PortProfile F) (records : R) (node : OrdinaryNode F R)
      (arrivals : List (Env × Arrival)) (w : OrdinaryWorld F R) (l : List (Effect F)),
      OrdinaryNode.new ds domain profile records = .ok (some node) →
      ((OrdinaryWorld.start node).run arrivals).Returns w l →
      (∀ s, w.node.fsm.state = some s → s.tracking = none) ∧ ∀ e ∈ l, ¬ e.Disciplines) ∧
    ∀ (domain : DomainNumber) (numPorts : UInt16) (node : BoundaryNode F R)
      (events : List (BoundaryEvent R)) (w : BoundaryWorld F R) (l : List (Effect F)),
      BoundaryNode.new ds domain numPorts = .ok node →
      ((BoundaryWorld.start node).run events).Returns w l →
      (∀ fsm ∈ w.node.ports, ∀ s, fsm.state = some s → s.tracking = none) ∧
        ∀ e ∈ l, ¬ e.Disciplines := by
  have hds : ds.isAuthoritative = true := by
    unfold ClockDS.isAuthoritative ClockQuality.isAuthoritative ClockClass.isAuthoritative
    simpa using hclass
  constructor
  · intro domain profile records node arrivals w l hnew hrun
    obtain ⟨hw, hl⟩ := Act.runAll_only (P := OrdinaryWorld.Undisciplined ds)
      (fun _ _ _ _ hw h => hw.step hds h) (OrdinaryWorld.undisciplined_start hnew) hrun
    exact ⟨fun s hs => hw.port.tracking hs, hl⟩
  · intro domain numPorts node events w l hnew hrun
    obtain ⟨clock, hclock, hnode⟩ := Checked.bind_eq_ok.mp hnew
    obtain ⟨enumeration, -, hret⟩ := Checked.bind_eq_ok.mp hclock
    cases hret
    cases hnode
    have hstart : (BoundaryWorld.start (⟨⟨ds, domain, enumeration, .new, []⟩, []⟩ :
        BoundaryNode F R)).Undisciplined ds :=
      ⟨rfl, by simp [BoundaryWorld.start], by simp [BoundaryWorld.start],
        by simp [BoundaryWorld.start]⟩
    obtain ⟨hw, hl⟩ := Act.runAll_only (P := BoundaryWorld.Undisciplined ds)
      (fun _ _ _ _ hw h => hw.step hds h) hstart hrun
    exact ⟨fun fsm hfsm s hs => (hw.ports fsm hfsm).tracking hs, hl⟩

/-- The second clock with a primary reference. -/
def referenceClock : ClockDS := { defaultClock 2 with quality := ⟨.primaryReference, .unknown, 0⟩ }

/-- The first clock announces itself with the best priority. -/
def announceOfBest (sequenceId : UInt16) : GeneralMessage :=
  .announce ⟨⟨sequenceId⟩, ⟨0⟩, { defaultClock 1 with priority1 := ⟨0⟩ }, .ptp⟩

theorem announceOfBest_message (source : PortIdentity) (sequenceId : UInt16) (now : Instant) :
    ¬ (PortInput.general source (announceOfBest sequenceId) now).IsDecision := id

theorem initialized_message : ¬ (PortInput.system .initialized).IsDecision := id

/-- A port of the clock hears a better clock until that one qualifies, and processes the decision
that its clock then sends. -/
def referenceEvents : List (BoundaryEvent ForeignClockRecordsVec) :=
  [.port .new,
    .arrive 0 (.calm (.fromSecs 0)) (.message (.system .initialized) initialized_message),
    .arrive 0 (.calm (.fromSecs 0)) (.message
      (.general ⟨(defaultClock 1).identity, ⟨1⟩⟩ (announceOfBest 0) (.fromSecs 0))
      (announceOfBest_message _ _ _)),
    .arrive 0 (.calm (.fromSecs 1)) (.message
      (.general ⟨(defaultClock 1).identity, ⟨1⟩⟩ (announceOfBest 1) (.fromSecs 1))
      (announceOfBest_message _ _ _)),
    .arrive 0 (.calm (.fromSecs 1)) (.notification 3)]

/-- The port is passive then, and has done nothing to the local clock. -/
theorem authoritative_undisciplined_passive :
    ∃ (node : BoundaryNode ℚ ForeignClockRecordsVec) (w : BoundaryWorld ℚ ForeignClockRecordsVec)
      (l : List (Effect ℚ)), BoundaryNode.new referenceClock ⟨0⟩ 2 = .ok node ∧
      ((BoundaryWorld.start node).run referenceEvents).Returns w l ∧
      (w.node.ports.filterMap PortFsm.state).map PortState.role = [.passive] ∧
      ∀ e ∈ l, ¬ e.Disciplines := by
  have hrun : ∃ (node : BoundaryNode ℚ ForeignClockRecordsVec)
      (w : BoundaryWorld ℚ ForeignClockRecordsVec) (l : List (Effect ℚ)),
      BoundaryNode.new referenceClock ⟨0⟩ 2 = .ok node ∧
      ((BoundaryWorld.start node).run referenceEvents).Returns w l ∧
      (w.node.ports.filterMap PortFsm.state).map PortState.role = [.passive] :=
    ⟨_, _, _, rfl, rfl, rfl⟩
  obtain ⟨node, w, l, hnew, hrun, hroles⟩ := hrun
  have hl := ((authoritative_undisciplined referenceClock (by decide)).2 ⟨0⟩ 2 node referenceEvents
    w l hnew hrun).2
  exact ⟨node, w, l, hnew, hrun, hroles, hl⟩

end Rptp
