import Rptp.Message.Acceptance
import Rptp.Node.SingleSlave
import Rptp.Port.Sound

/-! # No datagram makes a node panic

The decoders reject what they cannot read, the ports answer every message, and the clocks accept
every report of their own ports. Together, no datagram makes a reachable node panic.
-/

namespace Rptp

open Machine

variable {F R : Type}

section Reports

theorem notifyClock_returns {C : Type} [StateDecisionEvent C] (env : Env) (P : C → Prop)
    (calls : List (Effect F))
    (h : ∀ clock port e, Effect.trigger port e ∈ calls → P clock →
      ∃ clock', StateDecisionEvent.trigger env clock port e = .ok clock' ∧ P clock')
    {clock : C} (hclock : P clock) : ∃ clock', notifyClock env clock calls = .ok clock' := by
  have hfold : ∃ clock', notifyClock env clock calls = .ok clock' ∧ P clock' := by
    refine Checked.foldlM_returns ?_ clock hclock
    intro c call hcall hc
    cases call
    case trigger port e => exact h c port e hcall hc
    all_goals exact ⟨c, rfl, hc⟩
  obtain ⟨clock', hclock', -⟩ := hfold
  exact ⟨clock', hclock'⟩

/-- The single cell of an ordinary clock takes the reports of its own port. -/
theorem OrdinaryClock.trigger_returns (env : Env) (clock : OrdinaryClock F) {port : PortNumber}
    {e : BestForeignSnapshot} {receiver : PortIdentity} (hport : port = ⟨1⟩)
    (hreceiver : receiver.portNumber = ⟨1⟩) (he : e.ReceivedBy receiver) :
    ∃ clock', clock.trigger env port e = .ok clock' := by
  cases e with
  | empty =>
    subst hport
    exact ⟨_, rfl⟩
  | qualified ds source r =>
    obtain rfl : r = receiver := he
    rw [trigger, remember.eq_def, Checked.assert_of (beq_iff_eq.mpr hport), Checked.ok_bind,
      Checked.assert_of (beq_iff_eq.mpr hreceiver)]
    exact ⟨_, rfl⟩

theorem BestForeignSnapshot.isBetterOrBetterByTopology_returns (a b : BestForeignSnapshot) :
    ∃ r, a.isBetterOrBetterByTopology b = .ok r := by
  cases a with
  | empty => cases b <;> exact ⟨_, rfl⟩
  | qualified ds source receiver =>
    cases b with
    | empty => exact ⟨_, rfl⟩
    | qualified ds' source' receiver' => exact TopologyDS.isBetterOrBetterByTopology_returns _ _

theorem MultiPortForeignCandidates.best_returns (c : MultiPortForeignCandidates) :
    ∃ e, c.best = .ok e := by
  have hround : ∀ best, ∀ entry ∈ c.byPort, True → ∃ e, (do
      if ← entry.2.isBetterOrBetterByTopology best then pure entry.2 else pure best :
        Checked BestForeignSnapshot) = .ok e ∧ True := by
    rintro best ⟨port, snapshot⟩ - -
    obtain ⟨r, hr⟩ := snapshot.isBetterOrBetterByTopology_returns best
    rw [hr, Checked.ok_bind]
    cases r with
    | true => exact ⟨_, rfl, trivial⟩
    | false => exact ⟨_, rfl, trivial⟩
  obtain ⟨e, he, -⟩ := Checked.foldlM_returns (P := fun _ => True) hround .empty trivial
  exact ⟨e, he⟩

theorem BoundaryClock.trigger_returns (env : Env) (clock : BoundaryClock) (port : PortNumber)
    (e : BestForeignSnapshot) : ∃ clock', clock.trigger env port e = .ok clock' := by
  obtain ⟨best, hbest⟩ := (clock.foreignCandidates.remember port e).best_returns
  rw [trigger, hbest]
  exact ⟨_, rfl⟩

end Reports

variable [F64 F] [ForeignClockRecords R]

/-- The driver holds a sound port. -/
def PortFsm.Sound (fsm : PortFsm F R) : Prop := ∃ s, fsm = .new s ∧ s.Sound

theorem default_driftOrdered : (PortProfile.default : PortProfile F).servoConfig.DriftOrdered :=
  trivial

theorem newPort_sound {profile : PortProfile F} {ds : ClockDS} {domain : DomainNumber}
    {number : PortNumber} {records : R} {s : PortState F R}
    (hprofile : profile.servoConfig.DriftOrdered)
    (h : newPort profile ds domain number records = .ok s) : s.Sound := by
  obtain ⟨hrole, -, -, hp⟩ := newPort_state h
  refine ⟨by rw [hp]; exact hprofile, ?_⟩
  rw [PortState.servo, PortState.tracking_eq_none (by rw [hrole]; exact fun _ => id)]
  simp

section Lawful

variable [LawfulForeignClockRecords R]

namespace PortFsm

theorem Sound.process {env : Env} {fsm fsm' : PortFsm F R} {input : PortInput}
    {l : List (Effect F)} (hfsm : fsm.Sound) (h : (fsm.process env input).Returns fsm' l) :
    fsm'.Sound := by
  obtain ⟨s, rfl, hs⟩ := hfsm
  rw [process_new, map_eq_pure_bind] at h
  obtain ⟨s', hstep, rfl⟩ := Act.returns_bind_pure.mp h
  exact ⟨s', rfl, step_sound hs hstep⟩

theorem Sound.process_safe {fsm : PortFsm F R} (hfsm : fsm.Sound) (env : Env) {input : PortInput}
    (hin : input ≠ .system .announceReceiptTimeout) : (fsm.process env input).Safe := by
  obtain ⟨s, rfl, hs⟩ := hfsm
  obtain ⟨s', l, h⟩ := step_safe hs env hin
  rw [process_new, map_eq_pure_bind]
  exact ⟨_, l, Act.returns_bind_pure.mpr ⟨s', h, rfl⟩⟩

end PortFsm

namespace OrdinaryNode

/-- A run of an ordinary clock under the given profile leads to the node. -/
def Reachable (profile : PortProfile F) (node : OrdinaryNode F R) : Prop :=
  ∃ ds domain records start inputs l, new ds domain profile records = .ok (some start) ∧
    (start.run inputs).Returns node l

/-- What holds of every reachable node. -/
structure Sound (ds : ClockDS) (profile : PortProfile F) (node : OrdinaryNode F R) : Prop
    extends node.Owns ds profile where
  fsm : node.fsm.Sound

theorem Reachable.sound {profile : PortProfile F} {node : OrdinaryNode F R}
    (hprofile : profile.servoConfig.DriftOrdered) (h : node.Reachable profile) :
    ∃ ds, node.Sound ds profile := by
  obtain ⟨ds, domain, records, start, inputs, l, hnew, hrun⟩ := h
  refine ⟨ds, run_owns (owns_new hnew) hrun, ?_⟩
  refine Act.runAll_preserves (P := fun n => n.fsm.Sound) ?_ ?_ hrun
  · intro n i n' l hn hs
    exact hn.process (process_returns hs).1
  · obtain ⟨-, s, hfsm, hs⟩ := new_port hnew
    exact ⟨s, hfsm, newPort_sound hprofile hs⟩

theorem Sound.process_safe {ds : ClockDS} {profile : PortProfile F} {node : OrdinaryNode F R}
    (hnode : node.Sound ds profile) (env : Env) {input : PortInput}
    (hin : input ≠ .system .announceReceiptTimeout) : (node.process env input).Safe := by
  obtain ⟨s, hfsm, hparts, -⟩ := hnode.port
  obtain ⟨fsm, l, hprocess⟩ := hnode.fsm.process_safe env hin
  have hcalls : ∃ clock, notifyClock env node.clock l = .ok clock := by
    refine notifyClock_returns env (fun _ => True) l ?_ trivial
    intro clock port e hcall _
    rw [hfsm, PortFsm.process_new, map_eq_pure_bind] at hprocess
    obtain ⟨s', hstep, -⟩ := Act.returns_bind_pure.mp hprocess
    obtain ⟨-, hport, he⟩ := step_only env s input s' l hstep _ hcall
    rw [hparts] at hport he
    obtain ⟨clock', hclock'⟩ := OrdinaryClock.trigger_returns env clock hport rfl he
    exact ⟨clock', hclock', trivial⟩
  obtain ⟨clock, hclock⟩ := hcalls
  refine Act.safe_observe_bind hprocess ?_
  exact Act.safe_bind (Act.safe_lift hclock) fun _ _ _ => Act.safe_pure _

end OrdinaryNode

namespace BoundaryNode

/-- A run of a boundary clock leads to the node. -/
def Reachable (node : BoundaryNode F R) : Prop :=
  ∃ (ds : ClockDS) (domain : DomainNumber) (numPorts : UInt16) (start : BoundaryNode F R)
    (actions : List (BoundaryAction R)) (l : List (Effect F)),
    new ds domain numPorts = .ok start ∧ (start.run actions).Returns node l

/-- All ports of the node are sound. -/
def Sound (node : BoundaryNode F R) : Prop := ∀ fsm ∈ node.ports, fsm.Sound

theorem Sound.act {node node' : BoundaryNode F R} {action : BoundaryAction R} {l : List (Effect F)}
    (hnode : node.Sound) (h : (node.act action).Returns node' l) : node'.Sound := by
  cases action with
  | port records =>
    rcases port_returns h with rfl | ⟨state, hstate, -, hports⟩
    · exact hnode
    · intro fsm hfsm
      rw [hports] at hfsm
      rcases List.mem_append.mp hfsm with hold | hnew
      · exact hnode fsm hold
      · rw [List.mem_singleton.mp hnew]
        exact ⟨state, rfl, newPort_sound default_driftOrdered hstate⟩
  | deliver index env input =>
    rcases deliver_returns h with ⟨-, rfl⟩ | ⟨fsm, fsm', clock, hindex, hprocess, -, rfl⟩
    · exact hnode
    · intro x hx
      rcases List.mem_or_eq_of_mem_set hx with hold | rfl
      · exact hnode x hold
      · exact (hnode fsm (List.mem_of_getElem? hindex)).process hprocess

theorem Reachable.sound {node : BoundaryNode F R} (h : node.Reachable) : node.Sound := by
  obtain ⟨ds, domain, numPorts, start, actions, l, hnew, hrun⟩ := h
  refine Act.runAll_preserves (P := Sound) (fun _ _ _ _ hn hs => hn.act hs) ?_ hrun
  obtain ⟨clock, -, hret⟩ := Checked.bind_eq_ok.mp hnew
  cases hret
  intro fsm hfsm
  cases hfsm

theorem Sound.deliver_safe {node : BoundaryNode F R} (hnode : node.Sound) (env : Env) (index : ℕ)
    {input : PortInput} (hin : input ≠ .system .announceReceiptTimeout) :
    (node.deliver env index input).Safe := by
  unfold deliver
  cases hindex : node.ports[index]? with
  | none => exact Act.safe_pure _
  | some fsm =>
    obtain ⟨fsm', l, hprocess⟩ :=
      (hnode fsm (List.mem_of_getElem? hindex)).process_safe env hin
    have hcalls : ∃ clock, notifyClock env node.clock l = .ok clock := by
      refine notifyClock_returns env (fun _ => True) l ?_ trivial
      intro clock port e _ _
      obtain ⟨clock', hclock'⟩ := clock.trigger_returns env port e
      exact ⟨clock', hclock', trivial⟩
    obtain ⟨clock, hclock⟩ := hcalls
    refine Act.safe_observe_bind hprocess ?_
    exact Act.safe_bind (Act.safe_lift hclock) fun _ _ _ => Act.safe_pure _

end BoundaryNode

end Lawful

section Ingress

variable {ε P PM M : Type} [PortMap PM P]

/-- A dispatch is safe where the port of every domain processes every message. -/
theorem dispatch_safe {new : DomainMessage.Decoder M} {admissible : List UInt8 → Prop}
    (hdec : DecidesBody new admissible) {process : P → PortIdentity → M → Act ε P} {ports : PM}
    (hprocess : ∀ domain port, PortMap.portByDomain ports domain = .ok port →
      ∀ source msg, (process port source msg).Safe) (buf : List UInt8) :
    (DomainMessage.dispatch new process ports buf).Safe := by
  by_cases h : Accepted admissible ports buf
  · obtain ⟨port, source, msg, hport, heq⟩ := dispatch_oneCall hdec process h
    rw [heq]
    exact Act.safe_bind (hprocess _ port hport source msg) fun _ _ _ => Act.safe_pure _
  · obtain ⟨e, heq⟩ := dispatch_rejected hdec process h
    rw [heq]
    exact Act.safe_pure _

end Ingress

/-- No datagram, whatever its length and content, makes a reachable node panic: neither the port of
an ordinary clock under a profile with ordered drift bounds, nor any port of a boundary clock. -/
theorem messageIngress_safe {PM PM' : Type} [PortMap PM (OrdinaryNode F R)]
    [PortMap PM' (BoundaryNode F R)] [LawfulForeignClockRecords R] (profile : PortProfile F)
    (hprofile : profile.servoConfig.DriftOrdered) (ports : PM)
    (hports : ∀ domain node, PortMap.portByDomain ports domain = .ok node → node.Reachable profile)
    (ports' : PM')
    (hports' : ∀ domain node, PortMap.portByDomain ports' domain = .ok node → node.Reachable)
    (env : Env) (index : ℕ) (buf : List UInt8) (timestamp : TimeStamp) (now : Instant) :
    ((MessageIngress.receiveEvent (OrdinaryNode.ingress env) ports buf timestamp).Safe ∧
      (MessageIngress.receiveGeneral (OrdinaryNode.ingress env) ports buf now).Safe) ∧
    ((MessageIngress.receiveEvent (BoundaryNode.ingress env index) ports' buf timestamp).Safe ∧
      (MessageIngress.receiveGeneral (BoundaryNode.ingress env index) ports' buf now).Safe) := by
  refine ⟨⟨dispatch_safe eventMessage_decidesBody ?_ buf,
    dispatch_safe generalMessage_decidesBody ?_ buf⟩,
    dispatch_safe eventMessage_decidesBody ?_ buf, dispatch_safe generalMessage_decidesBody ?_ buf⟩
  · intro domain node hnode source msg
    obtain ⟨ds, hsound⟩ := (hports domain node hnode).sound hprofile
    exact hsound.process_safe env (by simp)
  · intro domain node hnode source msg
    obtain ⟨ds, hsound⟩ := (hports domain node hnode).sound hprofile
    exact hsound.process_safe env (by simp)
  · intro domain node hnode source msg
    exact (hports' domain node hnode).sound.deliver_safe env index (by simp)
  · intro domain node hnode source msg
    exact (hports' domain node hnode).sound.deliver_safe env index (by simp)

/-- A profile whose servo calibrates the drift between -1/1000 and 1/1000. -/
def calibratingProfile : PortProfile ℚ :=
  { (PortProfile.default : PortProfile ℚ) with
    servoConfig := .pi ⟨.disabled, .disabled, ⟨-1 / 1000⟩, ⟨1 / 1000⟩, .zero, 1 / 2, 1 / 10⟩ }

/-- A listening ordinary clock and a boundary clock with a tracking port, given a datagram that
claims more octets than it has. -/
theorem messageIngress_safe_truncated :
    ∃ (ports : SingleDomainPortMap (OrdinaryNode ℚ ForeignClockRecordsVec))
      (ports' : SingleDomainPortMap (BoundaryNode ℚ ForeignClockRecordsVec)),
      ports.portFsm.Reachable calibratingProfile ∧ ports'.portFsm.Reachable ∧
      (MessageIngress.receiveEvent (OrdinaryNode.ingress (.calm (.fromSecs 2))) ports
        [0, 2, 255, 255] ⟨0, 0, by decide, by decide⟩).Safe ∧
      (MessageIngress.receiveGeneral (BoundaryNode.ingress (.calm (.fromSecs 2)) 0) ports'
        [0, 2, 255, 255] (.fromSecs 2)).Safe := by
  have hordinary : ∃ start node l, OrdinaryNode.new (F := ℚ) (defaultClock 1) ⟨0⟩ calibratingProfile
      ForeignClockRecordsVec.new = .ok (some start) ∧
      (start.run [(.calm (.fromSecs 0), .system .initialized)]).Returns node l :=
    ⟨_, _, _, rfl, rfl⟩
  have hboundary : ∃ (start node : BoundaryNode ℚ ForeignClockRecordsVec) (l : List (Effect ℚ)),
      BoundaryNode.new (defaultClock 2) ⟨0⟩ 2 = .ok start ∧
      (start.run twoPortActions).Returns node l := ⟨_, _, _, rfl, rfl⟩
  obtain ⟨start, node, l, hnew, hrun⟩ := hordinary
  obtain ⟨start', node', l', hnew', hrun'⟩ := hboundary
  have hreach : node.Reachable calibratingProfile := ⟨_, _, _, _, _, _, hnew, hrun⟩
  have hreach' : node'.Reachable := ⟨_, _, _, _, _, _, hnew', hrun'⟩
  have hsafe := messageIngress_safe calibratingProfile (by
      change decide ((-1 / 1000 : ℚ) ≤ 1 / 1000) = true
      norm_num)
    (⟨⟨0⟩, node⟩ : SingleDomainPortMap _) (by
      intro domain n hn
      simp only [PortMap.portByDomain] at hn
      split_ifs at hn
      cases hn
      exact hreach)
    (⟨⟨0⟩, node'⟩ : SingleDomainPortMap _) (by
      intro domain n hn
      simp only [PortMap.portByDomain] at hn
      split_ifs at hn
      cases hn
      exact hreach')
    (.calm (.fromSecs 2)) 0 [0, 2, 255, 255] ⟨0, 0, by decide, by decide⟩ (.fromSecs 2)
  exact ⟨⟨⟨0⟩, node⟩, ⟨⟨0⟩, node'⟩, hreach, hreach', hsafe.1.1, hsafe.2.2⟩

end Rptp
