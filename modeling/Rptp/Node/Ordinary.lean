import Rptp.Message.Ingress
import Rptp.Port.Step

/-! # Ordinary clocks

A clock owns the default data set and the port numbers, remembers what its ports report and
notifies them of state decisions. A node is a clock with its port: one step is a message to the
port, with the reports of the port handed to the clock.
-/

namespace Rptp

open Machine

/-- The port numbers of a clock. -/
structure PortEnumeration where
  count : UInt16
  next : UInt16
deriving DecidableEq

namespace PortEnumeration

def sequential (n : UInt16) : Checked PortEnumeration := do
  Checked.assert (decide (1 ≤ n)) "PortEnumeration must have at least one port"
  pure ⟨n, 1⟩

def single : Checked PortEnumeration := sequential 1

/-- The next free number. The counter is a `u16`. -/
def nextPort (e : PortEnumeration) : Checked (PortEnumeration × Option PortNumber) :=
  if e.next ≤ e.count then do
    let next ← unsigned 16 (e.next.toNat + 1)
    pure ({ e with next := UInt16.ofNat next }, some ⟨e.next⟩)
  else pure (e, none)

theorem nextPort_returns {e e' : PortEnumeration} {number : Option PortNumber}
    (h : e.nextPort = .ok (e', number)) :
    (number = none ∧ e' = e) ∨
      (number = some ⟨e.next⟩ ∧ e'.next.toNat = e.next.toNat + 1) := by
  unfold nextPort at h
  split_ifs at h with hle
  · obtain ⟨next, hnext, hret⟩ := Checked.bind_eq_ok.mp h
    cases hret
    unfold unsigned at hnext
    split_ifs at hnext with hlt
    cases hnext
    exact .inr ⟨rfl, UInt16.toNat_ofNat_of_lt hlt⟩
  · cases h
    exact .inl ⟨rfl, rfl⟩

end PortEnumeration

/-- The part of a clock that a port reports to. -/
class StateDecisionEvent (C : Type) where
  trigger : Env → C → PortNumber → BestForeignSnapshot → Checked C

/-- Hand the reports among the calls of a port to its clock. -/
def notifyClock {C F : Type} [StateDecisionEvent C] (env : Env) (clock : C)
    (calls : List (Effect F)) : Checked C :=
  calls.foldlM (fun clock call => match call with
    | .trigger port e => StateDecisionEvent.trigger env clock port e
    | _ => pure clock) clock

variable {F R : Type}

/-- A new port of a clock, with the given number. -/
def newPort [ForeignClockRecords R] (profile : PortProfile F) (defaultDs : ClockDS)
    (domainNumber : DomainNumber) (portNumber : PortNumber) (records : R) :
    Checked (PortState F R) := do
  let portIdentity : PortIdentity := ⟨defaultDs.identity, portNumber⟩
  let bestForeign : BestForeignRecord R := ⟨portIdentity, records⟩
  let previous ← bestForeign.snapshot
  pure (profile.initializing ⟨portIdentity, domainNumber⟩
    ⟨⟨defaultDs, portNumber⟩, bestForeign, ⟨previous, portNumber⟩⟩)

theorem newPort_state [ForeignClockRecords R] {profile : PortProfile F} {ds : ClockDS} {domain : DomainNumber}
    {number : PortNumber} {records : R} {s : PortState F R}
    (h : newPort profile ds domain number records = .ok s) :
    s.role = .initializing ∧ s.handover.port.portIdentity = ⟨ds.identity, number⟩ ∧
      s.parts.frame = ⟨number, ⟨ds.identity, number⟩, number⟩ ∧ s.handover.profile = profile := by
  obtain ⟨previous, -, hret⟩ := Checked.bind_eq_ok.mp h
  cases hret
  exact ⟨rfl, rfl, rfl, rfl⟩

/-- The message of a state decision timeout before the first notification. -/
def newDecisionTimeout (defaultDs : ClockDS) : Timeout :=
  ⟨.stateDecisionEvent ⟨defaultDs, .empty⟩, none⟩

structure OrdinaryClock (F : Type) where
  defaultDs : ClockDS
  domainNumber : DomainNumber
  portEnumeration : PortEnumeration
  foreignCandidates : BestForeignSnapshot
  portNotification : Option Timeout
  profile : PortProfile F

namespace OrdinaryClock

def new (defaultDs : ClockDS) (domainNumber : DomainNumber) (profile : PortProfile F) :
    Checked (OrdinaryClock F) := do
  let portEnumeration ← PortEnumeration.single
  pure ⟨defaultDs, domainNumber, portEnumeration, .empty, none, profile⟩

/-- The only port of the clock, if it has not been created yet. -/
def port [ForeignClockRecords R] (clock : OrdinaryClock F) (records : R) :
    Checked (OrdinaryClock F × Option (PortState F R)) := do
  let (portEnumeration, portNumber) ← clock.portEnumeration.nextPort
  match portNumber with
  | some portNumber => do
    let state ← newPort clock.profile clock.defaultDs clock.domainNumber portNumber records
    pure ({ clock with
      portEnumeration
      portNotification := some (newDecisionTimeout clock.defaultDs) }, some state)
  | none => pure ({ clock with portEnumeration }, none)

/-- The single cell of an ordinary clock asserts the only port number. -/
def remember (clock : OrdinaryClock F) (port : PortNumber) (snapshot : BestForeignSnapshot) :
    Checked (OrdinaryClock F) := do
  Checked.assert (port == ⟨1⟩) "only single-port use cases supported"
  Checked.assert (match snapshot with
    | .qualified _ _ receiver => receiver.portNumber == ⟨1⟩
    | .empty => true) "only single-port use cases supported"
  pure { clock with foreignCandidates := snapshot }

def notifyAll (env : Env) (clock : OrdinaryClock F) (snapshot : StateDecisionSnapshot) :
    OrdinaryClock F :=
  { clock with
    portNotification := clock.portNotification.map fun timeout =>
      timeout.restartWithMessage env (.stateDecisionEvent snapshot) (.fromSecs 0) }

def trigger (env : Env) (clock : OrdinaryClock F) (port : PortNumber)
    (eRbest : BestForeignSnapshot) : Checked (OrdinaryClock F) := do
  let clock ← clock.remember port eRbest
  pure (clock.notifyAll env ⟨clock.defaultDs, clock.foreignCandidates⟩)

instance : StateDecisionEvent (OrdinaryClock F) := ⟨trigger⟩

end OrdinaryClock

theorem OrdinaryClock.notifyClock_keeps {env : Env} {clock clock' : OrdinaryClock F}
    {calls : List (Effect F)} (h : notifyClock env clock calls = .ok clock') :
    clock'.defaultDs = clock.defaultDs := by
  refine Checked.foldlM_preserves (P := fun c => c.defaultDs = clock.defaultDs) ?_ rfl h
  intro c call c' hc hcall
  cases call
  case trigger port e =>
    obtain ⟨remembered, hremember, hret⟩ := Checked.bind_eq_ok.mp hcall
    obtain ⟨-, -, hrest⟩ := Checked.bind_eq_ok.mp hremember
    obtain ⟨-, -, hok⟩ := Checked.bind_eq_ok.mp hrest
    cases hok
    cases hret
    exact hc
  all_goals
    cases hcall
    exact hc

/-- An ordinary clock with its port. -/
structure OrdinaryNode (F R : Type) where
  clock : OrdinaryClock F
  fsm : PortFsm F R

namespace OrdinaryNode

variable [ForeignClockRecords R]

/-- A clock with its port, as the infrastructure sets them up. -/
def new (defaultDs : ClockDS) (domainNumber : DomainNumber) (profile : PortProfile F)
    (records : R) : Checked (Option (OrdinaryNode F R)) := do
  let clock ← OrdinaryClock.new defaultDs domainNumber profile
  let (clock, state) ← clock.port records
  pure (state.map fun state => ⟨clock, .new state⟩)

variable [F64 F]

def process (env : Env) (node : OrdinaryNode F R) (input : PortInput) :
    Act (Effect F) (OrdinaryNode F R) := do
  let (fsm, calls) ← Act.observe (node.fsm.process env input)
  let clock ← Act.lift (notifyClock env node.clock calls)
  pure ⟨clock, fsm⟩

def run (node : OrdinaryNode F R) (inputs : List (Env × PortInput)) :
    Act (Effect F) (OrdinaryNode F R) :=
  Act.runAll (fun node i => node.process i.1 i.2) node inputs

/-- The port of a node as the ingress sees it. -/
def ingress (env : Env) : PortIngress (Effect F) (OrdinaryNode F R) where
  processEventMessage node source msg timestamp := node.process env (.event source msg timestamp)
  processGeneralMessage node source msg now := node.process env (.general source msg now)

/-- A message to a node is a message to its port, reported to the clock. -/
theorem process_returns {env : Env} {node node' : OrdinaryNode F R} {input : PortInput}
    {l : List (Effect F)} (h : (node.process env input).Returns node' l) :
    (node.fsm.process env input).Returns node'.fsm l ∧
      notifyClock env node.clock l = .ok node'.clock := by
  obtain ⟨fsm, l₁, l₂, hprocess, hrest, rfl⟩ := Act.returns_observe_bind.mp h
  obtain ⟨clock, hclock, hret⟩ := Act.returns_lift_bind.mp hrest
  obtain ⟨rfl, rfl⟩ := Act.returns_pure.mp hret
  rw [List.append_nil]
  exact ⟨hprocess, hclock⟩

/-- The node runs the only port of its clock. -/
structure Owns (defaultDs : ClockDS) (profile : PortProfile F) (node : OrdinaryNode F R) : Prop where
  clock : node.clock.defaultDs = defaultDs
  port : ∃ s, node.fsm = .new s ∧
    s.parts.frame = ⟨⟨1⟩, ⟨defaultDs.identity, ⟨1⟩⟩, ⟨1⟩⟩ ∧ s.handover.profile = profile

omit [F64 F] in
theorem new_port {defaultDs : ClockDS} {domainNumber : DomainNumber} {profile : PortProfile F}
    {records : R} {node : OrdinaryNode F R}
    (h : new defaultDs domainNumber profile records = .ok (some node)) :
    node.clock.defaultDs = defaultDs ∧ ∃ s, node.fsm = .new s ∧
      newPort profile defaultDs domainNumber ⟨1⟩ records = .ok s := by
  obtain ⟨state, hstate, hnode⟩ := Checked.bind_eq_ok.mp h
  cases hstate
  obtain ⟨⟨clock, port⟩, hport, hret⟩ := Checked.bind_eq_ok.mp hnode
  obtain ⟨numbered, hnumber, hnew⟩ := Checked.bind_eq_ok.mp hport
  cases hnumber
  obtain ⟨s, hs, hpair⟩ := Checked.bind_eq_ok.mp hnew
  cases hpair
  cases hret
  exact ⟨rfl, s, rfl, hs⟩

omit [F64 F] in
theorem owns_new {defaultDs : ClockDS} {domainNumber : DomainNumber} {profile : PortProfile F}
    {records : R} {node : OrdinaryNode F R}
    (h : new defaultDs domainNumber profile records = .ok (some node)) :
    node.Owns defaultDs profile := by
  obtain ⟨hds, s, hfsm, hs⟩ := new_port h
  obtain ⟨-, -, hframe, hprofile⟩ := newPort_state hs
  exact ⟨hds, s, hfsm, hframe, hprofile⟩

theorem process_step {env : Env} {node node' : OrdinaryNode F R} {input : PortInput}
    {l : List (Effect F)} {s : PortState F R} (hfsm : node.fsm = .new s)
    (h : (node.process env input).Returns node' l) :
    ∃ s', node'.fsm = .new s' ∧ (s.step env input).Returns s' l := by
  have hprocess := (process_returns h).1
  rw [hfsm, PortFsm.process_new, map_eq_pure_bind] at hprocess
  obtain ⟨s', hstep, hs'⟩ := Act.returns_bind_pure.mp hprocess
  exact ⟨s', hs', hstep⟩

theorem process_owns {defaultDs : ClockDS} {profile : PortProfile F} {env : Env}
    {node node' : OrdinaryNode F R} {input : PortInput} {l : List (Effect F)}
    (hnode : node.Owns defaultDs profile) (h : (node.process env input).Returns node' l) :
    node'.Owns defaultDs profile := by
  obtain ⟨hds, s, hfsm, hparts, hprofile⟩ := hnode
  obtain ⟨s', hfsm', hstep⟩ := process_step hfsm h
  have hframe := step_frame hstep
  refine ⟨?_, s', hfsm', ?_, ?_⟩
  · rw [OrdinaryClock.notifyClock_keeps (process_returns h).2, hds]
  · exact (congrArg PortFrame.toPartsFrame hframe).trans hparts
  · exact (congrArg PortFrame.profile hframe).trans hprofile

theorem run_owns {defaultDs : ClockDS} {profile : PortProfile F} {node node' : OrdinaryNode F R}
    {inputs : List (Env × PortInput)} {l : List (Effect F)} (hnode : node.Owns defaultDs profile)
    (h : (node.run inputs).Returns node' l) : node'.Owns defaultDs profile :=
  Act.runAll_preserves (P := Owns defaultDs profile) (fun _ _ _ _ hn hs => process_owns hn hs)
    hnode h

end OrdinaryNode

end Rptp
