import Rptp.Machine.Pool
import Rptp.Message.RoundTrip
import Rptp.Node.Broadcast

/-! # Clocks on a network

The clocks of a network are ordinary clocks or boundary clocks. What a port sends successfully is a
datagram, and a datagram that a clock hears goes through the message ingress of one of its ports.
Datagrams are lost, delayed, reordered and repeated, and a state decision reaches its port at any
time after the clock has sent it.
-/

namespace Rptp

open Machine

variable {F R D E : Type}

/-- A datagram on the event or on the general socket. -/
inductive Datagram where
  | event (buf : List UInt8)
  | general (buf : List UInt8)
deriving DecidableEq

/-- A send that succeeds puts its buffer on the wire. -/
def Effect.datagram : Effect F → Option Datagram
  | sendEvent _ buf (.ok ()) => some (.event buf)
  | sendGeneral _ buf (.ok ()) => some (.general buf)
  | _ => none

def datagrams (l : List (Effect F)) : List Datagram := l.filterMap Effect.datagram

inductive ClockNode (F R : Type) where
  | ordinary (node : OrdinaryNode F R)
  | boundary (node : BoundaryNode F R)

namespace ClockNode

def defaultDs : ClockNode F R → ClockDS
  | ordinary node => node.clock.defaultDs
  | boundary node => node.clock.defaultDs

def domainNumber : ClockNode F R → DomainNumber
  | ordinary node => node.clock.domainNumber
  | boundary node => node.clock.domainNumber

def ports : ClockNode F R → List (PortFsm F R)
  | ordinary node => [node.fsm]
  | boundary node => node.ports

/-- The numbers that the ports of the clock may have. -/
def Numbers : ClockNode F R → PortNumber → Prop
  | ordinary _, n => n = ⟨1⟩
  | boundary _, _ => True

/-- The state decisions that the clock has handed to its timeouts. -/
def notifications : ClockNode F R → List SystemMessage
  | ordinary node => node.clock.portNotification.toList.map Timeout.msg
  | boundary node => node.clock.portNotification.map Timeout.msg

variable [F64 F] [ForeignClockRecords R]

/-- A message to one port. The port of an ordinary clock is the only one. -/
def deliver (env : Env) (index : ℕ) (input : PortInput) :
    ClockNode F R → Act (Effect F) (ClockNode F R)
  | ordinary node =>
    match index with
    | 0 => do
      let node ← node.process env input
      pure (ordinary node)
    | _ + 1 => pure (ordinary node)
  | boundary node => do
    let node ← node.deliver env index input
    pure (boundary node)

/-- The next port of a boundary clock. An ordinary clock has been created with its port. -/
def create (records : R) : ClockNode F R → Act (Effect F) (ClockNode F R)
  | ordinary node => pure (ordinary node)
  | boundary node => do
    let node ← node.act (.port records)
    pure (boundary node)

/-- One port of a clock as the ingress sees it. -/
def ingress (env : Env) (index : ℕ) : PortIngress (Effect F) (ClockNode F R) where
  processEventMessage node source msg timestamp :=
    node.deliver env index (.event source msg timestamp)
  processGeneralMessage node source msg now := node.deliver env index (.general source msg now)

/-- A datagram to one port. What the ingress rejects is dropped. -/
def receive (env : Env) (index : ℕ) (timestamp : TimeStamp) (now : Instant) (node : ClockNode F R) :
    Datagram → Act (Effect F) (ClockNode F R)
  | .event buf => do
    let received ← MessageIngress.receiveEvent (ingress env index)
      (⟨node.domainNumber, node⟩ : SingleDomainPortMap (ClockNode F R)) buf timestamp
    pure received.2.portFsm
  | .general buf => do
    let received ← MessageIngress.receiveGeneral (ingress env index)
      (⟨node.domainNumber, node⟩ : SingleDomainPortMap (ClockNode F R)) buf now
    pure received.2.portFsm

/-- A clock as it is set up, with some of its ports if it is a boundary clock. -/
def Fresh (own : ClockDS) : ClockNode F R → Prop
  | ordinary node => ∃ domain profile records, ForeignClockRecords.iter (records : R) = [] ∧
      OrdinaryNode.new own domain profile records = .ok (some node)
  | boundary node => ∃ domain numPorts start l, BoundaryNode.new own domain numPorts = .ok start ∧
      ∃ records : List R, (∀ r ∈ records, ForeignClockRecords.iter r = []) ∧
        (start.run (records.map .port)).Returns node l

/-- What a boundary clock without ports has and a new port keeps, a boundary clock that is set up
has. -/
theorem Fresh.created {own : ClockDS} {node : BoundaryNode F R} {P : ClockNode F R → Prop}
    (h : (boundary node).Fresh own)
    (hstart : ∀ domain numPorts start, BoundaryNode.new own domain numPorts = .ok start →
      P (boundary start))
    (hcreate : ∀ records node node' l, ForeignClockRecords.iter records = [] → P node →
      (node.create records).Returns node' l → P node') : P (boundary node) := by
  obtain ⟨domain, numPorts, start, l, hnew, records, hrecords, hrun⟩ := h
  have hP := hstart domain numPorts start hnew
  clear hnew
  induction records generalizing start l with
  | nil =>
    obtain ⟨rfl, -⟩ := Act.returns_pure.mp hrun
    exact hP
  | cons r records ih =>
    obtain ⟨next, l₁, l₂, hport, hrest, -⟩ := Act.returns_runAll_cons.mp hrun
    refine ih next l₂ (fun r hr => hrecords r (List.mem_cons_of_mem _ hr)) hrest ?_
    exact hcreate r _ _ l₁ (hrecords r List.mem_cons_self) hP
      (Act.returns_bind_pure.mpr ⟨next, hport, rfl⟩)

end ClockNode

/-- What happens at a clock, with the datagrams given as `D`. The message of a timer or of the
infrastructure is not a state decision: these come from the clock itself. -/
inductive ClockInput (R : Type) [ForeignClockRecords R] (D : Type) where
  | create (records : R) (h : ForeignClockRecords.iter records = [])
  | system (index : ℕ) (env : Env) (msg : SystemMessage) (h : ¬ (PortInput.system msg).IsDecision)
  | notification (index : ℕ) (env : Env) (number : ℕ)
  | datagram (index : ℕ) (env : Env) (timestamp : TimeStamp) (now : Instant) (d : D)

/-- Look the datagram up. -/
def ClockInput.resolve [ForeignClockRecords R] (find : D → Option E) :
    ClockInput R D → Option (ClockInput R E)
  | create records h => some (create records h)
  | system index env msg h => some (system index env msg h)
  | notification index env number => some (notification index env number)
  | datagram index env timestamp now d => (find d).map (datagram index env timestamp now)

/-- A clock and the state decisions that it has sent so far. -/
structure ClockWorld (F R : Type) where
  node : ClockNode F R
  sent : List SystemMessage

namespace ClockWorld

def start (node : ClockNode F R) : ClockWorld F R := ⟨node, node.notifications⟩

variable [F64 F] [ForeignClockRecords R]

/-- The clock after an input. A state decision that was never sent does not arrive. -/
def next (w : ClockWorld F R) : ClockInput R Datagram → Act (Effect F) (ClockNode F R)
  | .create records _ => w.node.create records
  | .system index env msg _ => w.node.deliver env index (.system msg)
  | .notification index env number =>
    match w.sent[number]? with
    | some msg => w.node.deliver env index (.system msg)
    | none => pure w.node
  | .datagram index env timestamp now d => w.node.receive env index timestamp now d

def step (w : ClockWorld F R) (input : ClockInput R Datagram) : Act (Effect F) (ClockWorld F R) := do
  let node ← w.next input
  pure ⟨node, w.sent ++ node.notifications⟩

end ClockWorld

section Network

variable {ι : Type} [DecidableEq ι] [F64 F] [ForeignClockRecords R]

/-- A network of clocks. A clock reads the datagrams of those that it hears. -/
def network (hears : ι → ι → Prop) [DecidableRel hears] :
    Medium (Effect F) ι (ClockWorld F R) Datagram (ClockInput R ℕ) (ClockInput R Datagram) where
  read i sent o := o.resolve fun number =>
    (sent[number]?.filter fun p => decide (hears i p.1)).map Prod.snd
  component _ w input := w.step input
  written := datagrams

/-- The clocks as they are set up, before anything is sent. -/
def networkOf (nodes : ι → ClockNode F R) : Pool ι (ClockWorld F R) Datagram :=
  ⟨fun i => .start (nodes i), []⟩

end Network

section Ingress

variable [F64 F] [ForeignClockRecords R] {env : Env} {index : ℕ} {timestamp : TimeStamp}
  {now : Instant} {node node' : ClockNode F R} {buf : List UInt8} {l : List (Effect F)}

omit [F64 F] [ForeignClockRecords R] in
theorem dispatch_carried {S M : Type} {new : DomainMessage.Decoder M}
    {admissible : List UInt8 → Prop} (hdec : DecidesBody new admissible)
    {process : S → PortIdentity → M → Act (Effect F) S} {domain : DomainNumber} {s : S}
    {result : Except Error Unit × SingleDomainPortMap S}
    (h : (DomainMessage.dispatch new process (⟨domain, s⟩ : SingleDomainPortMap S) buf).Returns
      result l) :
    (result.2.portFsm = s ∧ l = []) ∨
      ∃ (hf : WellFramed buf) (msg : M), decodeBody new buf = pure msg ∧
        (process s (headerSource buf hf.header) msg).Returns result.2.portFsm l := by
  let ports : SingleDomainPortMap S := ⟨domain, s⟩
  by_cases ha : Accepted admissible ports buf
  · obtain ⟨port, hport⟩ := ha.mapped
    obtain ⟨msg, hmsg⟩ := (hdec buf ha.framed.header).1 ha.body
    have hs : port = s := by
      change (if domain = headerDomain buf then Except.ok s
        else Except.error (Error.protocol (.domainNotFound (headerDomain buf).value))) = .ok port at hport
      split_ifs at hport
      cases hport
      rfl
    subst hs
    rw [dispatch_of_decoded ha.framed hport hmsg] at h
    obtain ⟨port', hprocess, rfl⟩ := Act.returns_bind_pure.mp h
    exact .inr ⟨ha.framed, msg, hmsg, hprocess⟩
  · obtain ⟨e, he⟩ := dispatch_rejected hdec process ha
    rw [he] at h
    obtain ⟨rfl, rfl⟩ := Act.returns_pure.mp h
    exact .inl ⟨rfl, rfl⟩

theorem ClockNode.receive_returns {d : Datagram}
    (h : (node.receive env index timestamp now d).Returns node' l) :
    (node' = node ∧ l = []) ∨
      (∃ buf, d = .event buf ∧ ∃ (hf : WellFramed buf) (msg : EventMessage),
        decodeBody EventMessage.new buf = pure msg ∧
        (node.deliver env index (.event (headerSource buf hf.header) msg timestamp)).Returns node' l) ∨
      ∃ buf, d = .general buf ∧ ∃ (hf : WellFramed buf) (msg : GeneralMessage),
        decodeBody GeneralMessage.new buf = pure msg ∧
        (node.deliver env index (.general (headerSource buf hf.header) msg now)).Returns node' l := by
  cases d with
  | event buf =>
    obtain ⟨result, hresult, rfl⟩ := Act.returns_bind_pure.mp h
    rcases dispatch_carried eventMessage_decidesBody hresult with hsame | ⟨hf, msg, hmsg, hdeliver⟩
    · exact .inl hsame
    · exact .inr (.inl ⟨buf, rfl, hf, msg, hmsg, hdeliver⟩)
  | general buf =>
    obtain ⟨result, hresult, rfl⟩ := Act.returns_bind_pure.mp h
    rcases dispatch_carried generalMessage_decidesBody hresult with hsame | ⟨hf, msg, hmsg, hdeliver⟩
    · exact .inl hsame
    · exact .inr (.inr ⟨buf, rfl, hf, msg, hmsg, hdeliver⟩)

variable {P : ClockNode F R → Prop}

/-- What a new port and every message to a port preserve is preserved by whatever happens at a
clock. -/
theorem ClockWorld.next_preserves {w : ClockWorld F R} {input : ClockInput R Datagram}
    (hcreate : ∀ records node node' l, ForeignClockRecords.iter (records : R) = [] → P node →
      (node.create records : Act (Effect F) _).Returns node' l → P node')
    (hdeliver : ∀ env index input node node' l, P node →
      (node.deliver env index input : Act (Effect F) _).Returns node' l → P node')
    (hw : P w.node) (h : (w.next input).Returns node' l) : P node' := by
  cases input with
  | create records hrecords => exact hcreate _ _ _ _ hrecords hw h
  | system index env msg hmsg => exact hdeliver _ _ _ _ _ _ hw h
  | notification index env number =>
    simp only [ClockWorld.next] at h
    cases hmsg : w.sent[number]? with
    | none =>
      rw [hmsg] at h
      rw [(Act.returns_pure.mp h).1]
      exact hw
    | some msg =>
      rw [hmsg] at h
      exact hdeliver _ _ _ _ _ _ hw h
  | datagram index env timestamp now d =>
    rcases ClockNode.receive_returns h with ⟨rfl, -⟩ | ⟨buf, -, hf, msg, -, hd⟩ |
      ⟨buf, -, hf, msg, -, hd⟩
    · exact hw
    · exact hdeliver _ _ _ _ _ _ hw hd
    · exact hdeliver _ _ _ _ _ _ hw hd

end Ingress

section Runs

variable {ι : Type} [DecidableEq ι] [F64 F] [ForeignClockRecords R] {hears : ι → ι → Prop}
  [DecidableRel hears] {P : ι → ClockNode F R → Prop} {nodes : ι → ClockNode F R}
  {occurrences : List (ι × ClockInput R ℕ)} {w : Pool ι (ClockWorld F R) Datagram}
  {l : List (Effect F)}

/-- What every clock preserves by itself holds in every run of the network. -/
theorem network_preserves
    (hcreate : ∀ i records node node' l, ForeignClockRecords.iter (records : R) = [] → P i node →
      (node.create records : Act (Effect F) _).Returns node' l → P i node')
    (hdeliver : ∀ i env index input node node' l, P i node →
      (node.deliver env index input : Act (Effect F) _).Returns node' l → P i node')
    (hstart : ∀ i, P i (nodes i))
    (h : (Pool.run (network hears) (networkOf nodes) occurrences).Returns w l) (i : ι) :
    P i (w.components i).node := by
  have hw : w.Guarantees (fun i world => P i world.node) fun _ _ => True := by
    refine Pool.Guarantees.run (A := fun _ _ => True) (fun _ _ _ _ _ _ => trivial) ?_
      ⟨hstart, fun _ _ => trivial⟩ h
    intro i world input world' l hworld _ hstep
    obtain ⟨node, hnext, rfl⟩ := Act.returns_bind_pure.mp hstep
    exact ⟨ClockWorld.next_preserves (hcreate i) (hdeliver i) hworld hnext, fun _ _ => trivial⟩
  exact hw.components i

end Runs

end Rptp
