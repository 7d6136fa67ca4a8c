import Rptp.Node.Ordinary

/-! # Boundary clocks

A boundary clock has several ports. It keeps the last report of each and broadcasts the best of
them. Its ports are created one by one, and their messages interleave.
-/

namespace Rptp

open Machine

/-- The candidates of the ports, in the order of their port numbers. -/
structure MultiPortForeignCandidates where
  byPort : List (PortNumber × BestForeignSnapshot)

namespace MultiPortForeignCandidates

def new : MultiPortForeignCandidates := ⟨[]⟩

/-- Insert by port number, replacing what the port reported before. -/
def insert (port : PortNumber) (snapshot : BestForeignSnapshot) :
    List (PortNumber × BestForeignSnapshot) → List (PortNumber × BestForeignSnapshot)
  | [] => [(port, snapshot)]
  | (p, s) :: rest =>
    match compare port p with
    | .lt => (port, snapshot) :: (p, s) :: rest
    | .eq => (port, snapshot) :: rest
    | .gt => (p, s) :: insert port snapshot rest

def remember (c : MultiPortForeignCandidates) (port : PortNumber)
    (snapshot : BestForeignSnapshot) : MultiPortForeignCandidates :=
  match snapshot with
  | .qualified .. => ⟨insert port snapshot c.byPort⟩
  | .empty => ⟨c.byPort.filter fun entry => entry.1 ≠ port⟩

def best (c : MultiPortForeignCandidates) : Checked BestForeignSnapshot :=
  c.byPort.foldlM (fun best entry => do
    if ← entry.2.isBetterOrBetterByTopology best then pure entry.2 else pure best) .empty

end MultiPortForeignCandidates

structure BoundaryClock where
  defaultDs : ClockDS
  domainNumber : DomainNumber
  portEnumeration : PortEnumeration
  foreignCandidates : MultiPortForeignCandidates
  portNotification : List Timeout

namespace BoundaryClock

variable {F R : Type} [ForeignClockRecords R]

def new (defaultDs : ClockDS) (domainNumber : DomainNumber) (numPorts : UInt16) :
    Checked BoundaryClock := do
  let portEnumeration ← PortEnumeration.sequential numPorts
  pure ⟨defaultDs, domainNumber, portEnumeration, .new, []⟩

/-- The next port of the clock, under the default profile. -/
def port (clock : BoundaryClock) (records : R) :
    Checked (BoundaryClock × Option (PortState F R)) := do
  let (portEnumeration, portNumber) ← clock.portEnumeration.nextPort
  match portNumber with
  | some portNumber => do
    let state ← newPort PortProfile.default clock.defaultDs clock.domainNumber portNumber records
    pure ({ clock with
      portEnumeration
      portNotification := clock.portNotification ++ [newDecisionTimeout clock.defaultDs] },
      some state)
  | none => pure ({ clock with portEnumeration }, none)

def notifyAll (env : Env) (clock : BoundaryClock) (snapshot : StateDecisionSnapshot) :
    BoundaryClock :=
  { clock with
    portNotification := clock.portNotification.map fun timeout =>
      timeout.restartWithMessage env (.stateDecisionEvent snapshot) (.fromSecs 0) }

def trigger (env : Env) (clock : BoundaryClock) (portNumber : PortNumber)
    (eRbest : BestForeignSnapshot) : Checked BoundaryClock := do
  let clock := { clock with foreignCandidates := clock.foreignCandidates.remember portNumber eRbest }
  let eBest ← clock.foreignCandidates.best
  pure (clock.notifyAll env ⟨clock.defaultDs, eBest⟩)

instance : StateDecisionEvent BoundaryClock := ⟨trigger⟩

end BoundaryClock

theorem BoundaryClock.notifyClock_keeps {F : Type} {env : Env} {clock clock' : BoundaryClock} {calls : List (Effect F)}
    (h : notifyClock env clock calls = .ok clock') :
    clock'.defaultDs = clock.defaultDs ∧ clock'.portEnumeration = clock.portEnumeration := by
  refine Checked.foldlM_preserves (P := fun c => c.defaultDs = clock.defaultDs ∧
    c.portEnumeration = clock.portEnumeration) ?_ ⟨rfl, rfl⟩ h
  intro c call c' hc hcall
  cases call
  case trigger port e =>
    obtain ⟨best, -, hret⟩ := Checked.bind_eq_ok.mp hcall
    cases hret
    exact hc
  all_goals
    cases hcall
    exact hc

/-- A boundary clock with the ports it has created so far. -/
structure BoundaryNode (F R : Type) where
  clock : BoundaryClock
  ports : List (PortFsm F R)

/-- What happens next at a boundary clock: a port is created, or a port gets a message. -/
inductive BoundaryAction (R : Type) where
  | port (records : R)
  | deliver (index : ℕ) (env : Env) (input : PortInput)

namespace BoundaryNode

variable {F R : Type} [F64 F] [ForeignClockRecords R]

def new (defaultDs : ClockDS) (domainNumber : DomainNumber) (numPorts : UInt16) :
    Checked (BoundaryNode F R) := do
  let clock ← BoundaryClock.new defaultDs domainNumber numPorts
  pure ⟨clock, []⟩

/-- A message to one port. There is nothing to do for a port that does not exist. -/
def deliver (env : Env) (node : BoundaryNode F R) (index : ℕ) (input : PortInput) :
    Act (Effect F) (BoundaryNode F R) :=
  match node.ports[index]? with
  | some fsm => do
    let (fsm, calls) ← Act.observe (fsm.process env input)
    let clock ← Act.lift (notifyClock env node.clock calls)
    pure ⟨clock, node.ports.set index fsm⟩
  | none => pure node

def act (node : BoundaryNode F R) : BoundaryAction R → Act (Effect F) (BoundaryNode F R)
  | .port records => do
    let (clock, state) ← Act.lift (node.clock.port (F := F) records)
    match state with
    | some state => pure ⟨clock, node.ports ++ [PortFsm.new state]⟩
    | none => pure ⟨clock, node.ports⟩
  | .deliver index env input => node.deliver env index input

def run (node : BoundaryNode F R) (actions : List (BoundaryAction R)) :
    Act (Effect F) (BoundaryNode F R) :=
  Act.runAll act node actions

/-- One port of a node as the ingress sees it. -/
def ingress (env : Env) (index : ℕ) : PortIngress (Effect F) (BoundaryNode F R) where
  processEventMessage node source msg timestamp :=
    node.deliver env index (.event source msg timestamp)
  processGeneralMessage node source msg now := node.deliver env index (.general source msg now)

theorem deliver_returns {env : Env} {node node' : BoundaryNode F R} {index : ℕ}
    {input : PortInput} {l : List (Effect F)} (h : (node.deliver env index input).Returns node' l) :
    (node.ports[index]? = none ∧ node' = node) ∨
      ∃ fsm fsm' clock, node.ports[index]? = some fsm ∧ (fsm.process env input).Returns fsm' l ∧
        notifyClock env node.clock l = .ok clock ∧
        node' = ⟨clock, node.ports.set index fsm'⟩ := by
  unfold deliver at h
  cases hfsm : node.ports[index]? with
  | none =>
    rw [hfsm] at h
    exact .inl ⟨rfl, (Act.returns_pure.mp h).1⟩
  | some fsm =>
    rw [hfsm] at h
    obtain ⟨fsm', l₁, l₂, hprocess, hrest, rfl⟩ := Act.returns_observe_bind.mp h
    obtain ⟨clock, hclock, hret⟩ := Act.returns_lift_bind.mp hrest
    obtain ⟨rfl, rfl⟩ := Act.returns_pure.mp hret
    rw [List.append_nil]
    exact .inr ⟨fsm, fsm', clock, rfl, hprocess, hclock, rfl⟩

theorem port_returns {node node' : BoundaryNode F R} {records : R} {l : List (Effect F)}
    (h : (node.act (.port records)).Returns node' l) :
    node' = node ∨
      ∃ state, newPort .default node.clock.defaultDs node.clock.domainNumber
          ⟨node.clock.portEnumeration.next⟩ records = .ok state ∧
        node'.clock.portEnumeration.next.toNat = node.clock.portEnumeration.next.toNat + 1 ∧
        node'.ports = node.ports ++ [PortFsm.new state] := by
  obtain ⟨⟨clock, state⟩, hport, hret⟩ := Act.returns_lift_bind.mp h
  obtain ⟨⟨enumeration, number⟩, hnext, hrest⟩ := Checked.bind_eq_ok.mp hport
  rcases PortEnumeration.nextPort_returns hnext with ⟨rfl, rfl⟩ | ⟨rfl, hnumber⟩
  · cases hrest
    obtain ⟨rfl, -⟩ := Act.returns_pure.mp hret
    exact .inl rfl
  · obtain ⟨s, hs, hpair⟩ := Checked.bind_eq_ok.mp hrest
    cases hpair
    obtain ⟨rfl, -⟩ := Act.returns_pure.mp hret
    exact .inr ⟨s, hs, hnumber, rfl⟩

end BoundaryNode

end Rptp
