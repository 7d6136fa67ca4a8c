import Rptp.Daemon.Loop
import Rptp.Network.Election
import Rptp.Network.Evidence

/-! # Daemons on a network

The loops of a daemon are one way in which a clock of a network goes on: the clock sends its state
decisions and takes them whenever it likes, and the daemon takes them in the order in which they wait
in a channel. A network of daemons is a network of clocks, so that what holds in every run of the one
holds in every run of the other.
-/

namespace Rptp

open Machine

variable {C F R : Type}

section Ingress

/-- A datagram is dropped by every port of a domain, or it is the same message to all of them. -/
theorem dispatch_uniform {M : Type} {new : DomainMessage.Decoder M} {admissible : List UInt8 → Prop}
    (hdec : DecidesBody new admissible) (domain : DomainNumber) (buf : List UInt8) :
    (∀ {S : Type} (process : S → PortIdentity → M → Act (Effect F) S) (s : S), (do
      let received ← DomainMessage.dispatch new process (⟨domain, s⟩ : SingleDomainPortMap S) buf
      pure received.2.portFsm) = pure s) ∨
    ∃ source msg, ∀ {S : Type} (process : S → PortIdentity → M → Act (Effect F) S) (s : S), (do
      let received ← DomainMessage.dispatch new process (⟨domain, s⟩ : SingleDomainPortMap S) buf
      pure received.2.portFsm) = process s source msg := by
  by_cases ha : WellFramed buf ∧ domain = headerDomain buf ∧ admissible buf
  · obtain ⟨hf, hdomain, hbody⟩ := ha
    obtain ⟨msg, hmsg⟩ := (hdec buf hf.header).1 hbody
    refine .inr ⟨headerSource buf hf.header, msg, fun process s => ?_⟩
    rw [dispatch_of_decoded hf (if_pos hdomain) hmsg, bind_assoc]
    exact bind_pure _
  · refine .inl fun process s => ?_
    have hrejected : ¬ Accepted admissible (⟨domain, s⟩ : SingleDomainPortMap _) buf := by
      rintro ⟨hf, ⟨port, hport⟩, hbody⟩
      refine ha ⟨hf, ?_, hbody⟩
      by_contra hdomain
      cases (if_neg hdomain).symm.trans hport
    obtain ⟨e, he⟩ := dispatch_rejected hdec process hrejected
    rw [he]
    rfl

variable [F64 F] [ForeignClockRecords R] [StateDecisionEvent C] [PortNotification C]

/-- A datagram is dropped by every clock and every daemon of a domain, or it is one message. -/
theorem datagram_uniform (domain : DomainNumber) (env : Env) (egress : TimeStamp) (index : ℕ)
    (timestamp : TimeStamp) (now : Instant) (datagram : Datagram) :
    (∀ (node : ClockNode F R) (d : Daemon C F R), node.domainNumber = domain →
      d.domainNumber = domain → node.receive env index timestamp now datagram = pure node ∧
      d.processDatagram env egress index timestamp now datagram = pure d) ∨
    ∃ input, ∀ (node : ClockNode F R) (d : Daemon C F R), node.domainNumber = domain →
      d.domainNumber = domain →
      node.receive env index timestamp now datagram = node.deliver env index input ∧
      d.processDatagram env egress index timestamp now datagram = d.process env egress index input := by
  cases datagram with
  | event buf =>
    rcases dispatch_uniform (F := F) eventMessage_decidesBody domain buf with h | ⟨source, msg, h⟩
    · refine .inl ?_
      rintro node d rfl hd
      exact ⟨h _ node, by rw [← hd] at h; exact h _ d⟩
    · refine .inr ⟨.event source msg timestamp, ?_⟩
      rintro node d rfl hd
      exact ⟨h _ node, by rw [← hd] at h; exact h _ d⟩
  | general buf =>
    rcases dispatch_uniform (F := F) generalMessage_decidesBody domain buf with h | ⟨source, msg, h⟩
    · refine .inl ?_
      rintro node d rfl hd
      exact ⟨h _ node, by rw [← hd] at h; exact h _ d⟩
    · refine .inr ⟨.general source msg now, ?_⟩
      rintro node d rfl hd
      exact ⟨h _ node, by rw [← hd] at h; exact h _ d⟩

end Ingress

section Hosting

/-- A clock with its ports, as a clock of a network. -/
def OrdinaryHosts (clock : OrdinaryClock F) (ports : List (PortFsm F R)) (node : ClockNode F R) : Prop :=
  ∃ fsm, ports = [fsm] ∧ node = .ordinary ⟨clock, fsm⟩

def BoundaryHosts (clock : BoundaryClock) (ports : List (PortFsm F R)) (node : ClockNode F R) : Prop :=
  node = .boundary ⟨clock, ports⟩

variable [F64 F] [ForeignClockRecords R] [StateDecisionEvent C] [PortNotification C]

/-- A clock with its ports goes on as a clock of a network does. -/
structure Hosting (Hosts : C → List (PortFsm F R) → ClockNode F R → Prop) : Prop where
  notifications : ∀ {clock ports node}, Hosts clock ports node →
    node.notifications = (PortNotification.timeouts clock).map Timeout.msg
  absent : ∀ {clock ports node index} (env : Env) (input : PortInput), Hosts clock ports node →
    ports[index]? = none → node.deliver env index input = pure node
  deliver : ∀ {clock clock' ports node index fsm fsm' l} (env : Env) (input : PortInput),
    Hosts clock ports node → ports[index]? = some fsm → (fsm.process env input).Returns fsm' l →
    notifyClock env clock l = .ok clock' →
    ∃ node', (node.deliver env index input).Returns node' l ∧
      Hosts clock' (ports.set index fsm') node' ∧ node'.domainNumber = node.domainNumber

omit [F64 F] in
theorem OrdinaryClock.notifyClock_domain {env : Env} {clock clock' : OrdinaryClock F}
    {l : List (Effect F)} (h : notifyClock env clock l = .ok clock') :
    clock'.domainNumber = clock.domainNumber := by
  refine Checked.foldlM_preserves (P := fun c : OrdinaryClock F =>
    c.domainNumber = clock.domainNumber) ?_ rfl h
  intro c call c' hc hcall
  cases call
  case trigger port e =>
    rw [OrdinaryClock.trigger_eq hcall]
    exact hc
  all_goals
    cases hcall
    exact hc

omit [F64 F] in
theorem BoundaryClock.notifyClock_domain {env : Env} {clock clock' : BoundaryClock}
    {l : List (Effect F)} (h : notifyClock env clock l = .ok clock') :
    clock'.domainNumber = clock.domainNumber := by
  refine Checked.foldlM_preserves (P := fun c : BoundaryClock =>
    c.domainNumber = clock.domainNumber) ?_ rfl h
  intro c call c' hc hcall
  cases call
  case trigger port e =>
    obtain ⟨eBest, -, rfl⟩ := BoundaryClock.trigger_eq hcall
    exact hc
  all_goals
    cases hcall
    exact hc

theorem ordinary_hosting : Hosting (OrdinaryHosts (F := F) (R := R)) where
  notifications := by
    rintro clock ports node ⟨fsm, rfl, rfl⟩
    rfl
  absent := by
    rintro clock ports node index env input ⟨fsm, rfl, rfl⟩ hindex
    cases index with
    | zero => cases hindex
    | succ index => rfl
  deliver := by
    rintro clock clock' ports node index fsm fsm' l env input ⟨fsm, rfl, rfl⟩ hindex hprocess hclock
    cases index with
    | zero =>
      cases hindex
      refine ⟨.ordinary ⟨clock', fsm'⟩, Act.returns_bind_pure.mpr ⟨⟨clock', fsm'⟩, ?_, rfl⟩,
        ⟨fsm', rfl, rfl⟩, OrdinaryClock.notifyClock_domain hclock⟩
      exact Act.returns_observe_bind.mpr ⟨fsm', l, [], hprocess,
        Act.returns_lift_bind.mpr ⟨clock', hclock, Act.returns_pure.mpr ⟨rfl, rfl⟩⟩, by simp⟩
    | succ index => cases hindex

theorem boundary_hosting : Hosting (BoundaryHosts (F := F) (R := R)) where
  notifications := by
    rintro clock ports node rfl
    rfl
  absent := by
    rintro clock ports node index env input rfl hindex
    change (do
      let node ← BoundaryNode.deliver env ⟨clock, ports⟩ index input
      pure (ClockNode.boundary node)) = _
    rw [BoundaryNode.deliver, hindex]
    rfl
  deliver := by
    rintro clock clock' ports node index fsm fsm' l env input rfl hindex hprocess hclock
    refine ⟨.boundary ⟨clock', ports.set index fsm'⟩, Act.returns_bind_pure.mpr
      ⟨⟨clock', ports.set index fsm'⟩, ?_, rfl⟩, rfl, BoundaryClock.notifyClock_domain hclock⟩
    rw [BoundaryNode.deliver, hindex]
    exact Act.returns_observe_bind.mpr ⟨fsm', l, [], hprocess,
      Act.returns_lift_bind.mpr ⟨clock', hclock, Act.returns_pure.mpr ⟨rfl, rfl⟩⟩, by simp⟩

end Hosting

/-- The daemon has the clock and the ports of a clock on a network, which has sent all the state
decisions that wait in a channel. -/
structure Mirrors (Hosts : C → List (PortFsm F R) → ClockNode F R → Prop) (d : Daemon C F R)
    (w : ClockWorld F R) : Prop where
  hosts : Hosts d.clock d.ports w.node
  domain : w.node.domainNumber = d.domainNumber
  present : ∀ fsm ∈ d.ports, ∃ s, fsm = PortFsm.new s
  queued : ∀ channel ∈ d.channels, ∀ msg ∈ channel, (PortInput.system msg).IsDecision → msg ∈ w.sent

namespace Mirrors

variable [F64 F] [ForeignClockRecords R] [StateDecisionEvent C] [PortNotification C]
  {Hosts : C → List (PortFsm F R) → ClockNode F R → Prop} {d d' : Daemon C F R} {w : ClockWorld F R}
  {env : Env} {egress : TimeStamp} {index : ℕ} {input : PortInput} {l : List (Effect F)}

theorem process (hosting : Hosting Hosts) (h : Mirrors Hosts d w)
    (hprocess : (d.process env egress index input).Returns d' l) :
    ∃ node', (w.node.deliver env index input).Returns node' l ∧
      Mirrors Hosts d' ⟨node', w.sent ++ node'.notifications⟩ := by
  have hprocessed := Daemon.process_returns h.present hprocess
  have hpresent := hprocessed.present h.present
  have stepped : ∀ {s s' : PortState F R}, (s.step env input).Returns s' l →
      ((PortFsm.new s).process env input).Returns (.new s') l := by
    intro s s' hstep
    rw [PortFsm.process_new, map_eq_pure_bind]
    exact Act.returns_bind_pure.mpr ⟨s', hstep, rfl⟩
  cases hprocessed with
  | absent hport hd hlog =>
    subst hd hlog
    refine ⟨w.node, ?_, h.hosts, h.domain, hpresent, fun channel hchannel msg hmsg hdecision => ?_⟩
    · rw [hosting.absent env input h.hosts hport]
      exact Act.returns_pure.mpr ⟨rfl, rfl⟩
    · exact List.mem_append_left _ (h.queued channel hchannel msg hmsg hdecision)
  | quiet s s' hport hstep hlog hd =>
    subst hd
    obtain ⟨node', hdeliver, hhosts, hdomain⟩ :=
      hosting.deliver env input h.hosts hport (stepped hstep) (notifyClock_silent hlog)
    refine ⟨node', hdeliver, hhosts, hdomain.trans h.domain, hpresent, ?_⟩
    intro channel hchannel msg hmsg hdecision
    obtain ⟨before, hbefore, hsplit⟩ := mem_post hchannel
    rcases hsplit msg hmsg with hold | hstamp
    · exact List.mem_append_left _ (h.queued before hbefore msg hold hdecision)
    · obtain ⟨sent, rfl⟩ := Daemon.mem_stamps hstamp
      exact absurd hdecision id
  | reported s s' clock port l₁ hport hstep hbefore hlog hclock hd =>
    subst hd
    have hnotify : notifyClock env d.clock l = .ok clock := by
      rw [hlog, notifyClock_reported hbefore]
      exact hclock
    obtain ⟨node', hdeliver, hhosts, hdomain⟩ :=
      hosting.deliver env input h.hosts hport (stepped hstep) hnotify
    refine ⟨node', hdeliver, hhosts, hdomain.trans h.domain, hpresent, ?_⟩
    intro channel hchannel msg hmsg hdecision
    obtain ⟨j, hj⟩ := List.getElem?_of_mem hchannel
    obtain ⟨posted, timeout, hposted, htimeout, rfl⟩ := List.getElem?_zipWith_eq_some.mp hj
    rcases List.mem_append.mp hmsg with hmsg | hmsg
    · obtain ⟨before, hbefore, hsplit⟩ := mem_post (List.mem_of_getElem? hposted)
      rcases hsplit msg hmsg with hold | hstamp
      · exact List.mem_append_left _ (h.queued before hbefore msg hold hdecision)
      · obtain ⟨sent, rfl⟩ := Daemon.mem_stamps hstamp
        exact absurd hdecision id
    · rw [List.mem_singleton.mp hmsg]
      refine List.mem_append_right _ ?_
      rw [hosting.notifications hhosts]
      exact List.mem_map_of_mem (List.mem_of_getElem? htimeout)

/-- A message to a port is an input of the clock, if it is a state decision that the clock has sent or
no state decision at all. -/
theorem system (hosting : Hosting Hosts) {msg : SystemMessage} (h : Mirrors Hosts d w)
    (hsent : (PortInput.system msg).IsDecision → msg ∈ w.sent)
    (hprocess : (d.process env egress index (.system msg)).Returns d' l) :
    ∃ (input : ClockInput R Datagram) (w' : ClockWorld F R),
      (∀ j env timestamp now datagram, input ≠ .datagram j env timestamp now datagram) ∧
      (w.step input).Returns w' l ∧ Mirrors Hosts d' w' := by
  obtain ⟨node', hdeliver, hmirrors⟩ := h.process hosting hprocess
  by_cases hdecision : (PortInput.system msg).IsDecision
  · obtain ⟨number, hnumber⟩ := List.getElem?_of_mem (hsent hdecision)
    refine ⟨.notification index env number, _, by simp, Act.returns_bind_pure.mpr ⟨node', ?_, rfl⟩,
      hmirrors⟩
    simp only [ClockWorld.next, hnumber]
    exact hdeliver
  · exact ⟨.system index env msg hdecision, _, by simp,
      Act.returns_bind_pure.mpr ⟨node', hdeliver, rfl⟩, hmirrors⟩

omit [F64 F] [ForeignClockRecords R] [StateDecisionEvent C] [PortNotification C] in
theorem post (h : Mirrors Hosts d w) {msg : SystemMessage} (hmsg : ¬ (PortInput.system msg).IsDecision) :
    Mirrors Hosts { d with channels := Rptp.post index [msg] d.channels } w := by
  refine ⟨h.hosts, h.domain, h.present, fun channel hchannel m hm hdecision => ?_⟩
  obtain ⟨before, hbefore, hsplit⟩ := mem_post hchannel
  rcases hsplit m hm with hold | hnew
  · exact h.queued before hbefore m hold hdecision
  · rw [List.mem_singleton.mp hnew] at hdecision
    exact absurd hdecision hmsg

omit [F64 F] [ForeignClockRecords R] [StateDecisionEvent C] [PortNotification C] in
theorem take (h : Mirrors Hosts d w) {msg : SystemMessage} {rest : List SystemMessage}
    (hchannel : d.channels[index]? = some (msg :: rest)) :
    Mirrors Hosts { d with channels := d.channels.set index rest } w := by
  refine ⟨h.hosts, h.domain, h.present, fun channel hmem m hm hdecision => ?_⟩
  rcases List.mem_or_eq_of_mem_set hmem with hmem | rfl
  · exact h.queued channel hmem m hm hdecision
  · exact h.queued _ (List.mem_of_getElem? hchannel) m (List.mem_cons_of_mem _ hm) hdecision

end Mirrors

/-- An input that the event gives the clock: the same datagram, or no datagram. -/
def DaemonEvent.Gives [ForeignClockRecords R] (event : DaemonEvent) : ClockInput R Datagram → Prop
  | .datagram index env timestamp now d =>
    ∃ egress, event = .datagram index env egress timestamp now d
  | _ => True

section Step

variable [F64 F] [ForeignClockRecords R] [StateDecisionEvent C] [PortNotification C]
  {Hosts : C → List (PortFsm F R) → ClockNode F R → Prop} {d d' : Daemon C F R} {w : ClockWorld F R}
  {l : List (Effect F)} {event : DaemonEvent}

omit [F64 F] in
theorem DaemonEvent.gives_of_ne {input : ClockInput R Datagram}
    (h : ∀ j env timestamp now datagram, input ≠ .datagram j env timestamp now datagram) :
    event.Gives input := by
  cases input with
  | datagram j env timestamp now datagram => exact absurd rfl (h j env timestamp now datagram)
  | _ => trivial

theorem SystemMessage.IsTimer.not_decision {msg : SystemMessage} (h : msg.IsTimer) :
    ¬ (PortInput.system msg).IsDecision := by
  cases msg
  case stateDecisionEvent => exact absurd h id
  all_goals exact id

/-- What happens next in the daemon happens next at the clock, or it is nothing to the clock. -/
theorem Mirrors.step (hosting : Hosting Hosts) (h : Mirrors Hosts d w)
    (hstep : (d.step event).Returns d' l) : (Mirrors Hosts d' w ∧ l = []) ∨
      ∃ (input : ClockInput R Datagram) (w' : ClockWorld F R), event.Gives input ∧
        (w.step input).Returns w' l ∧ Mirrors Hosts d' w' := by
  have idle : (pure d : Act (Effect F) (Daemon C F R)).Returns d' l → Mirrors Hosts d' w ∧ l = [] := by
    intro hret
    obtain ⟨rfl, rfl⟩ := Act.returns_pure.mp hret
    exact ⟨h, rfl⟩
  unfold Daemon.step at hstep
  split_ifs at hstep with hdomain
  · cases event with
    | initialized index env egress =>
      obtain ⟨input, w', hne, hclock, hmirrors⟩ := h.system hosting (fun hdecision => absurd hdecision id)
        hstep
      exact .inr ⟨input, w', DaemonEvent.gives_of_ne hne, hclock, hmirrors⟩
    | elapsed index msg htimer =>
      obtain ⟨rfl, rfl⟩ := Act.returns_pure.mp hstep
      exact .inl ⟨h.post htimer.not_decision, rfl⟩
    | receive index env egress =>
      change (d.receive env egress index).Returns d' l at hstep
      unfold Daemon.receive at hstep
      split at hstep
      case h_1 msg rest hchannel =>
        have hqueued : (PortInput.system msg).IsDecision → msg ∈ w.sent :=
          h.queued _ (List.mem_of_getElem? hchannel) msg List.mem_cons_self
        obtain ⟨input, w', hne, hclock, hmirrors⟩ := (h.take hchannel).system hosting hqueued hstep
        exact .inr ⟨input, w', DaemonEvent.gives_of_ne hne, hclock, hmirrors⟩
      case h_2 => exact .inl (idle hstep)
    | datagram index env egress timestamp now datagram =>
      change (d.processDatagram env egress index timestamp now datagram).Returns d' l at hstep
      rcases datagram_uniform (C := C) (F := F) (R := R) d.domainNumber env egress index timestamp now
        datagram with hdropped | ⟨input, hmessage⟩
      · rw [(hdropped w.node d h.domain rfl).2] at hstep
        exact .inl (idle hstep)
      · obtain ⟨hclock, hdaemon⟩ := hmessage w.node d h.domain rfl
        rw [hdaemon] at hstep
        obtain ⟨node', hdeliver, hmirrors⟩ := h.process hosting hstep
        refine .inr ⟨.datagram index env timestamp now datagram, _, ⟨egress, rfl⟩,
          Act.returns_bind_pure.mpr ⟨node', ?_, rfl⟩, hmirrors⟩
        change (w.node.receive env index timestamp now datagram).Returns node' l
        rw [hclock]
        exact hdeliver
  · exact .inl (idle hstep)

end Step

/-- A daemon with an ordinary clock or with a boundary clock. -/
inductive DaemonNode (F R : Type) where
  | ordinary (d : Daemon (OrdinaryClock F) F R)
  | boundary (d : Daemon BoundaryClock F R)

/-- The daemon that runs a clock. -/
def ClockNode.daemon : ClockNode F R → DaemonNode F R
  | ordinary node => .ordinary (Daemon.new node.clock.domainNumber node.clock [node.fsm])
  | boundary node => .boundary (Daemon.new node.clock.domainNumber node.clock node.ports)

namespace DaemonNode

def ports : DaemonNode F R → List (PortFsm F R)
  | ordinary d => d.ports
  | boundary d => d.ports

def Mirrors : DaemonNode F R → ClockWorld F R → Prop
  | ordinary d, w => Rptp.Mirrors OrdinaryHosts d w
  | boundary d, w => Rptp.Mirrors BoundaryHosts d w

variable [F64 F] [ForeignClockRecords R]

def step (event : DaemonEvent) : DaemonNode F R → Act (Effect F) (DaemonNode F R)
  | ordinary d => do
    let d ← d.step event
    pure (ordinary d)
  | boundary d => do
    let d ← d.step event
    pure (boundary d)

theorem Mirrors.step {d d' : DaemonNode F R} {w : ClockWorld F R} {event : DaemonEvent}
    {l : List (Effect F)} (h : d.Mirrors w) (hstep : (d.step event).Returns d' l) :
    (d'.Mirrors w ∧ l = []) ∨ ∃ (input : ClockInput R Datagram) (w' : ClockWorld F R),
      event.Gives input ∧ (w.step input).Returns w' l ∧ d'.Mirrors w' := by
  cases d with
  | ordinary d =>
    obtain ⟨d', hd, rfl⟩ := Act.returns_bind_pure.mp hstep
    exact Rptp.Mirrors.step ordinary_hosting h hd
  | boundary d =>
    obtain ⟨d', hd, rfl⟩ := Act.returns_bind_pure.mp hstep
    exact Rptp.Mirrors.step boundary_hosting h hd

omit [F64 F] [ForeignClockRecords R] in
theorem mirrors_start {node : ClockNode F R}
    (hports : ∀ fsm ∈ node.ports, ∃ s, fsm = PortFsm.new s) :
    node.daemon.Mirrors (.start node) := by
  have empty : ∀ ports : List (PortFsm F R), ∀ channel ∈ ports.map fun _ => ([] : List SystemMessage),
      ∀ msg ∈ channel, (PortInput.system msg).IsDecision → msg ∈ node.notifications := by
    intro ports channel hchannel msg hmsg
    obtain ⟨fsm, -, rfl⟩ := List.mem_map.mp hchannel
    cases hmsg
  cases node with
  | ordinary node => exact ⟨⟨node.fsm, rfl, rfl⟩, rfl, hports, empty _⟩
  | boundary node => exact ⟨rfl, rfl, hports, empty _⟩

end DaemonNode

/-- The event is a datagram. -/
def DaemonEvent.IsDatagram : DaemonEvent → Prop
  | datagram .. => True
  | _ => False

/-- What happens at a daemon of a network, with the datagrams by their numbers. -/
inductive DaemonOccurrence where
  | own (event : DaemonEvent) (h : ¬ event.IsDatagram)
  | datagram (index : ℕ) (env : Env) (egress timestamp : TimeStamp) (now : Instant) (number : ℕ)

section Network

variable {ι : Type} [DecidableEq ι] [F64 F] [ForeignClockRecords R] {hears : ι → ι → Prop}
  [DecidableRel hears]

/-- A network of daemons. A daemon reads the datagrams of those that it hears. -/
def daemonNetwork (hears : ι → ι → Prop) [DecidableRel hears] :
    Medium (Effect F) ι (DaemonNode F R) Datagram DaemonOccurrence DaemonEvent where
  read i sent
    | .own event _ => some event
    | .datagram index env egress timestamp now number =>
      ((sent[number]?.filter fun p => decide (hears i p.1)).map Prod.snd).map
        (DaemonEvent.datagram index env egress timestamp now)
  component _ d event := d.step event
  written := datagrams

omit [DecidableEq ι] [F64 F] [ForeignClockRecords R] in
/-- The daemons of clocks that are set up, before anything is sent. -/
def daemonsOf (nodes : ι → ClockNode F R) : Pool ι (DaemonNode F R) Datagram :=
  ⟨fun i => (nodes i).daemon, []⟩

omit [DecidableEq ι] in
theorem network_reads {i : ι} {sent : List (ι × Datagram)} {o : DaemonOccurrence} {event : DaemonEvent}
    {input : ClockInput R Datagram}
    (hread : (daemonNetwork hears : Medium (Effect F) ι (DaemonNode F R) _ _ _).read i sent o =
      some event) (hgives : event.Gives input) :
    ∃ o', (network hears : Medium (Effect F) ι (ClockWorld F R) _ _ _).read i sent o' = some input := by
  cases input with
  | create records h => exact ⟨.create records h, rfl⟩
  | system index env msg h => exact ⟨.system index env msg h, rfl⟩
  | notification index env number => exact ⟨.notification index env number, rfl⟩
  | datagram index env timestamp now d =>
    obtain ⟨egress, rfl⟩ := hgives
    cases o with
    | own event h =>
      cases hread
      exact absurd trivial h
    | datagram index' env' egress' timestamp' now' number =>
      obtain ⟨found, hfound, heq⟩ := Option.map_eq_some_iff.mp hread
      cases heq
      exact ⟨.datagram index env timestamp now number,
        congrArg (Option.map (ClockInput.datagram index env timestamp now)) hfound⟩

omit [DecidableEq ι] in
theorem daemons_follow : Pool.Follows
    (daemonNetwork hears : Medium (Effect F) ι (DaemonNode F R) _ _ _) (network hears)
    fun _ d w => d.Mirrors w := by
  intro i sent o event d w d' l hread hmirrors hstep
  rcases DaemonNode.Mirrors.step hmirrors hstep with hidle | ⟨input, w', hgives, hclock, hmirrors'⟩
  · exact .inl hidle
  · obtain ⟨o', hread'⟩ := network_reads hread hgives
    exact .inr ⟨o', input, w', hread', hclock, hmirrors'⟩

variable {own : ι → ClockDS} {nodes : ι → ClockNode F R} {w : Pool ι (DaemonNode F R) Datagram}
  {occurrences : List (ι × DaemonOccurrence)} {l : List (Effect F)}

/-- A network of daemons is a network of clocks: for every run of the daemons, whatever the order of
timers, loops and datagrams, there is a run of their clocks with the same calls and the same datagrams,
and in which every clock has the same ports and has sent the state decisions that wait in the channels
of its daemon. -/
theorem daemons_refine_network (hfresh : ∀ i, (nodes i).Fresh (own i))
    (h : (Pool.run (daemonNetwork hears) (daemonsOf nodes) occurrences).Returns w l) :
    ∃ (clockOccurrences : List (ι × ClockInput R ℕ)) (v : Pool ι (ClockWorld F R) Datagram),
      (Pool.run (network hears) (networkOf nodes) clockOccurrences).Returns v l ∧ w.sent = v.sent ∧
      ∀ i, (w.components i).Mirrors (v.components i) := by
  have hstart : Pool.Related (fun _ d w => DaemonNode.Mirrors d w) (daemonsOf nodes)
      (networkOf nodes) := by
    refine ⟨fun i => DaemonNode.mirrors_start fun fsm hfsm => ?_, rfl⟩
    have hrests : (nodes i).Rests ⟨fun _ _ _ => False, fun _ _ => False, fun _ _ => False,
      fun _ _ => False⟩ := (hfresh i).rests
    obtain ⟨s, hs, -⟩ := hrests.ports fsm hfsm
    exact ⟨s, hs⟩
  obtain ⟨clockOccurrences, v, hrun, hrelated⟩ := hstart.run daemons_follow rfl rfl h
  exact ⟨clockOccurrences, v, hrun, hrelated.sent, hrelated.components⟩

end Network

/-! ## Two daemons

The first one becomes a master and announces itself, and the second one hears it and takes the state
decision.
-/

theorem initialized_own (index : ℕ) (env : Env) (egress : TimeStamp) :
    ¬ (DaemonEvent.initialized index env egress).IsDatagram := id

theorem elapsed_own (index : ℕ) (msg : SystemMessage) (h : msg.IsTimer) :
    ¬ (DaemonEvent.elapsed index msg h).IsDatagram := id

theorem receive_own (index : ℕ) (env : Env) (egress : TimeStamp) :
    ¬ (DaemonEvent.receive index env egress).IsDatagram := id

/-- The loop of the daemon starts. -/
def starting : DaemonOccurrence :=
  .own (.initialized 0 (.calm (.fromSecs 0)) (stampOf 0)) (initialized_own _ _ _)

/-- The loop takes the oldest message of its channel. -/
def taking : DaemonOccurrence :=
  .own (.receive 0 (.calm (.fromSecs 1)) (stampOf 0)) (receive_own _ _ _)

def elapsing (msg : SystemMessage) (h : msg.IsTimer) : DaemonOccurrence :=
  .own (.elapsed 0 msg h) (elapsed_own _ _ _)

def overhearing (secs : UInt32) (number : ℕ) : DaemonOccurrence :=
  .datagram 0 (.calm (.fromSecs secs)) (stampOf 0) (stampOf 0) (.fromSecs secs) number

theorem announceReceiptTimeout_timer : SystemMessage.announceReceiptTimeout.IsTimer := trivial

theorem announceSendTimeout_timer : SystemMessage.announceSendTimeout.IsTimer := trivial

def daemonOccurrences : List (Fin 3 × DaemonOccurrence) :=
  firstAndSecond
    [starting, elapsing _ announceReceiptTimeout_timer, taking, elapsing _ announceSendTimeout_timer,
      elapsing _ announceSendTimeout_timer, taking, taking, taking]
    [starting, overhearing 0 0, overhearing 1 1, taking]

theorem daemons_refine_network_line :
    ∃ (w : Pool (Fin 3) (DaemonNode ℚ ForeignClockRecordsVec) Datagram) (l : List (Effect ℚ))
      (clockOccurrences : List (Fin 3 × ClockInput ForeignClockRecordsVec ℕ))
      (v : Pool (Fin 3) (ClockWorld ℚ ForeignClockRecordsVec) Datagram),
      (Pool.run (daemonNetwork lineHears) (daemonsOf fun i => .ordinary (lineOrdinary i))
        daemonOccurrences).Returns w l ∧
      (w.components 1).ports.map (fun fsm => fsm.state.map PortState.role) =
        [some (.uncalibrated ⟨⟨(lineOwn 0).identity, ⟨1⟩⟩⟩)] ∧
      (Pool.run (network lineHears) (networkOf fun i => .ordinary (lineOrdinary i))
        clockOccurrences).Returns v l ∧ w.sent = v.sent ∧
      ∀ i, (w.components i).Mirrors (v.components i) := by
  have hrun : (Pool.run (daemonNetwork lineHears) (daemonsOf fun i => .ordinary (lineOrdinary i))
      daemonOccurrences).run.toOption.map
        (fun p => (p.1.components 1).ports.map fun fsm => fsm.state.map PortState.role) =
      some [some (.uncalibrated ⟨⟨(lineOwn 0).identity, ⟨1⟩⟩⟩)] := by
    decide +kernel
  obtain ⟨⟨w, l⟩, hret, hroles⟩ := Option.map_eq_some_iff.mp hrun
  have hreach := Act.returns_of_toOption hret
  obtain ⟨clockOccurrences, v, hclocks⟩ :=
    daemons_refine_network (fun i => fresh_defaultNode (lineOwn i)) hreach
  exact ⟨w, l, clockOccurrences, v, hreach, hroles, hclocks⟩

end Rptp
