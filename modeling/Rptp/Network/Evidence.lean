import Rptp.Network.Clock
import Rptp.Port.Evidence

/-! # Clocks and the evidence they have

What the ports of a clock have recorded rests on what has reached the clock. The steps of a port are
those of `PortState.Rests`; this module carries them through the clock and its state decisions, and
says of every call that a port has performed it on an input that is in evidence.
-/

namespace Rptp

open Machine

variable {ι F R : Type} {env : Env} {l : List (Effect F)}

theorem OrdinaryClock.decides {clock clock' : OrdinaryClock F}
    (hclock : ∀ timeout ∈ clock.portNotification, (PortInput.system timeout.msg).IsDecision)
    (h : notifyClock env clock l = .ok clock') :
    ∀ timeout ∈ clock'.portNotification, (PortInput.system timeout.msg).IsDecision := by
  refine Checked.foldlM_preserves (P := fun c : OrdinaryClock F =>
    ∀ timeout ∈ c.portNotification, (PortInput.system timeout.msg).IsDecision) ?_ hclock h
  intro c call c' hc hcall
  cases call
  case trigger port e =>
    rw [OrdinaryClock.trigger_eq hcall]
    intro timeout htimeout
    obtain ⟨old, -, rfl⟩ := Option.mem_map.mp htimeout
    trivial
  all_goals
    cases hcall
    exact hc

theorem BoundaryClock.decides {clock clock' : BoundaryClock}
    (hclock : ∀ timeout ∈ clock.portNotification, (PortInput.system timeout.msg).IsDecision)
    (h : notifyClock env clock l = .ok clock') :
    ∀ timeout ∈ clock'.portNotification, (PortInput.system timeout.msg).IsDecision := by
  refine Checked.foldlM_preserves (P := fun c : BoundaryClock =>
    ∀ timeout ∈ c.portNotification, (PortInput.system timeout.msg).IsDecision) ?_ hclock h
  intro c call c' hc hcall
  cases call
  case trigger port e =>
    obtain ⟨eBest, -, rfl⟩ := BoundaryClock.trigger_eq hcall
    intro timeout htimeout
    obtain ⟨old, -, rfl⟩ := List.mem_map.mp htimeout
    trivial
  all_goals
    cases hcall
    exact hc

namespace ClockNode

variable [ForeignClockRecords R] {E E' : Evidence} {node node' : ClockNode F R}

/-- What the ports of the clock have recorded is in evidence, and the clock notifies its ports of
nothing but decisions. -/
structure Rests (E : Evidence) (node : ClockNode F R) : Prop where
  ports : ∀ fsm ∈ node.ports, ∃ s, fsm = .new s ∧ s.Rests E
  decisions : ∀ msg ∈ node.notifications, (PortInput.system msg).IsDecision

omit [ForeignClockRecords R] in
theorem Rests.mono (h : node.Rests E) (hgrown : E.Grown E') : node.Rests E' := by
  refine ⟨fun fsm hfsm => ?_, h.decisions⟩
  obtain ⟨s, rfl, hs⟩ := h.ports fsm hfsm
  exact ⟨s, rfl, hs.mono hgrown⟩

theorem newPort_rests {profile : PortProfile F} {ds : ClockDS} {domain : DomainNumber}
    {number : PortNumber} {records : R} {s : PortState F R}
    (h : newPort profile ds domain number records = .ok s) : s.Rests E := by
  obtain ⟨previous, -, hret⟩ := Checked.bind_eq_ok.mp h
  cases hret
  exact .of_untracked rfl

variable [F64 F]

theorem Rests.create {records : R} (h : node.Rests E)
    (hcreate : (node.create records).Returns node' l) : node'.Rests E ∧ l = [] := by
  cases node with
  | ordinary node =>
    obtain ⟨rfl, rfl⟩ := Act.returns_pure.mp hcreate
    exact ⟨h, rfl⟩
  | boundary node =>
    obtain ⟨node', hact, rfl⟩ := Act.returns_bind_pure.mp hcreate
    obtain ⟨⟨clock, state⟩, hport, hret⟩ := Act.returns_lift_bind.mp hact
    obtain ⟨⟨enumeration, number⟩, -, hrest⟩ := Checked.bind_eq_ok.mp hport
    cases number with
    | none =>
      cases hrest
      obtain ⟨rfl, rfl⟩ := Act.returns_pure.mp hret
      exact ⟨⟨h.ports, h.decisions⟩, rfl⟩
    | some number =>
      obtain ⟨s, hs, hpair⟩ := Checked.bind_eq_ok.mp hrest
      cases hpair
      obtain ⟨rfl, rfl⟩ := Act.returns_pure.mp hret
      refine ⟨⟨fun fsm hfsm => ?_, fun msg hmsg => ?_⟩, rfl⟩
      · rcases List.mem_append.mp hfsm with hfsm | hfsm
        · exact h.ports fsm hfsm
        · exact ⟨s, List.mem_singleton.mp hfsm, newPort_rests hs⟩
      · obtain ⟨timeout, htimeout, rfl⟩ := List.mem_map.mp hmsg
        rcases List.mem_append.mp htimeout with htimeout | htimeout
        · exact h.decisions _ (List.mem_map_of_mem htimeout)
        · rw [List.mem_singleton.mp htimeout]
          trivial

theorem Fresh.rests {own : ClockDS} (h : node.Fresh own) : node.Rests E := by
  cases node with
  | ordinary node =>
    obtain ⟨domain, profile, records, -, hnew⟩ := h
    obtain ⟨state, hstate, hnode⟩ := Checked.bind_eq_ok.mp hnew
    cases hstate
    obtain ⟨⟨clock, port⟩, hport, hret⟩ := Checked.bind_eq_ok.mp hnode
    obtain ⟨numbered, hnumber, hport⟩ := Checked.bind_eq_ok.mp hport
    cases hnumber
    obtain ⟨s, hs, hpair⟩ := Checked.bind_eq_ok.mp hport
    cases hpair
    cases hret
    refine ⟨fun fsm hfsm => ⟨s, List.mem_singleton.mp hfsm, newPort_rests hs⟩, fun msg hmsg => ?_⟩
    rw [List.mem_singleton.mp hmsg]
    trivial
  | boundary node =>
    refine h.created ?_ fun records node node' l _ hnode hcreate => (hnode.create hcreate).1
    intro domain numPorts start hnew
    obtain ⟨clock, hclock, hnode⟩ := Checked.bind_eq_ok.mp hnew
    obtain ⟨enumeration, -, hret⟩ := Checked.bind_eq_ok.mp hclock
    cases hret
    cases hnode
    exact ⟨fun fsm hfsm => (List.not_mem_nil hfsm).elim, fun msg hmsg => (List.not_mem_nil hmsg).elim⟩

variable {index : ℕ} {input : PortInput}

theorem deliver_cases (h : (node.deliver env index input).Returns node' l) :
    (node' = node ∧ l = []) ∨
      ∃ fsm ∈ node.ports, ∃ fsm', (fsm.process env input).Returns fsm' l ∧
        (∀ g ∈ node'.ports, g ∈ node.ports ∨ g = fsm') ∧
        ((∀ msg ∈ node.notifications, (PortInput.system msg).IsDecision) →
          ∀ msg ∈ node'.notifications, (PortInput.system msg).IsDecision) := by
  cases node with
  | ordinary node =>
    cases index with
    | zero =>
      obtain ⟨node', hprocess, rfl⟩ := Act.returns_bind_pure.mp h
      obtain ⟨hfsm, hclock⟩ := OrdinaryNode.process_returns hprocess
      refine .inr ⟨node.fsm, List.mem_singleton_self _, node'.fsm, hfsm,
        fun g hg => .inr (List.mem_singleton.mp hg), fun hdecisions msg hmsg => ?_⟩
      obtain ⟨timeout, htimeout, rfl⟩ := List.mem_map.mp hmsg
      refine OrdinaryClock.decides (fun old hold => ?_) hclock timeout (Option.mem_toList.mp htimeout)
      exact hdecisions _ (List.mem_map_of_mem (Option.mem_toList.mpr hold))
    | succ index =>
      obtain ⟨rfl, rfl⟩ := Act.returns_pure.mp h
      exact .inl ⟨rfl, rfl⟩
  | boundary node =>
    obtain ⟨node', hdeliver, rfl⟩ := Act.returns_bind_pure.mp h
    rcases BoundaryNode.deliver_returns hdeliver with ⟨hnone, rfl⟩ |
      ⟨fsm, fsm', clock, hfsm, hprocess, hnotify, rfl⟩
    · unfold BoundaryNode.deliver at hdeliver
      rw [hnone] at hdeliver
      exact .inl ⟨rfl, (Act.returns_pure.mp hdeliver).2⟩
    · refine .inr ⟨fsm, List.mem_of_getElem? hfsm, fsm', hprocess,
        fun g hg => List.mem_or_eq_of_mem_set hg, fun hdecisions msg hmsg => ?_⟩
      obtain ⟨timeout, htimeout, rfl⟩ := List.mem_map.mp hmsg
      refine BoundaryClock.decides (fun old hold => ?_) hnotify timeout htimeout
      exact hdecisions _ (List.mem_map_of_mem hold)

/-- The calls are those of one step of a port, on an input that is in evidence. -/
def Performed (E : Evidence) (ports : List (PortFsm F R)) (l : List (Effect F)) : Prop :=
  l = [] ∨ ∃ env s s' input, PortFsm.new s ∈ ports ∧ s.Rests E ∧ input.InEvidence E ∧
    (s.step env input).Returns s' l

theorem Rests.deliver (hnode : node.Rests E) (hin : input.InEvidence E)
    (h : (node.deliver env index input).Returns node' l) :
    node'.Rests E ∧ Performed E node.ports l := by
  rcases deliver_cases h with ⟨rfl, rfl⟩ | ⟨fsm, hfsm, fsm', hprocess, hports, hdecisions⟩
  · exact ⟨hnode, .inl rfl⟩
  · obtain ⟨s, rfl, hs⟩ := hnode.ports fsm hfsm
    rw [PortFsm.process_new, map_eq_pure_bind, Act.returns_bind_pure] at hprocess
    obtain ⟨s', hstep, rfl⟩ := hprocess
    refine ⟨⟨fun g hg => ?_, hdecisions hnode.decisions⟩,
      .inr ⟨env, s, s', input, hfsm, hs, hin, hstep⟩⟩
    rcases hports g hg with hg | rfl
    · exact hnode.ports g hg
    · exact ⟨s', rfl, hs.step hin hstep⟩

end ClockNode

/-- What the datagram carries is in evidence if it arrives at the given time. -/
def Datagram.InEvidence (E : Evidence) (ingress : TimeStamp) : Datagram → Prop
  | .event buf => ∀ (hf : WellFramed buf) (msg : EventMessage),
      decodeBody EventMessage.new buf = pure msg → E.Received (headerSource buf hf.header) msg ingress
  | .general buf => ∀ (hf : WellFramed buf) (msg : GeneralMessage),
      decodeBody GeneralMessage.new buf = pure msg →
      ∀ now, (PortInput.general (headerSource buf hf.header) msg now).InEvidence E

def ClockInput.InEvidence [ForeignClockRecords R] (E : Evidence) : ClockInput R Datagram → Prop
  | .datagram _ _ ingress _ d => d.InEvidence E ingress
  | .system _ _ msg _ => (PortInput.system msg).InEvidence E
  | _ => True

namespace ClockWorld

variable [ForeignClockRecords R] {E E' : Evidence} {w w' : ClockWorld F R}

structure Rests (E : Evidence) (w : ClockWorld F R) : Prop where
  node : w.node.Rests E
  sent : ∀ msg ∈ w.sent, (PortInput.system msg).IsDecision

omit [ForeignClockRecords R] in
theorem Rests.mono (h : w.Rests E) (hgrown : E.Grown E') : w.Rests E' :=
  ⟨h.node.mono hgrown, h.sent⟩

variable [F64 F]

theorem Rests.next {node : ClockNode F R} {input : ClockInput R Datagram} (hw : w.Rests E)
    (hin : input.InEvidence E) (h : (w.next input).Returns node l) :
    node.Rests E ∧ ClockNode.Performed E w.node.ports l := by
  cases input with
  | create records hrecords =>
    obtain ⟨hnode, rfl⟩ := hw.node.create h
    exact ⟨hnode, .inl rfl⟩
  | system index env msg hmsg => exact hw.node.deliver hin h
  | notification index env number =>
    simp only [ClockWorld.next] at h
    cases hmsg : w.sent[number]? with
    | none =>
      rw [hmsg] at h
      obtain ⟨rfl, rfl⟩ := Act.returns_pure.mp h
      exact ⟨hw.node, .inl rfl⟩
    | some msg =>
      rw [hmsg] at h
      obtain ⟨snapshot, hsnapshot⟩ := (hw.sent msg (List.mem_of_getElem? hmsg)).eq
      have hevidence : (PortInput.system msg).InEvidence E := by
        rw [hsnapshot]
        trivial
      exact hw.node.deliver hevidence h
  | datagram index env ingress now d =>
    rcases ClockNode.receive_returns h with ⟨rfl, rfl⟩ | ⟨buf, rfl, hf, msg, hmsg, hdeliver⟩ |
      ⟨buf, rfl, hf, msg, hmsg, hdeliver⟩
    · exact ⟨hw.node, .inl rfl⟩
    · have hevidence : (PortInput.event (headerSource buf hf.header) msg ingress).InEvidence E :=
        hin hf msg hmsg
      exact hw.node.deliver hevidence hdeliver
    · exact hw.node.deliver (hin hf msg hmsg now) hdeliver

theorem Rests.step {input : ClockInput R Datagram} (hw : w.Rests E) (hin : input.InEvidence E)
    (h : (w.step input).Returns w' l) :
    w'.Rests E ∧ ClockNode.Performed E w.node.ports l := by
  obtain ⟨node, hnext, rfl⟩ := Act.returns_bind_pure.mp h
  obtain ⟨hnode, hl⟩ := hw.next hin hnext
  refine ⟨⟨hnode, fun msg hmsg => ?_⟩, hl⟩
  rcases List.mem_append.mp hmsg with hmsg | hmsg
  · exact hw.sent msg hmsg
  · exact hnode.decisions msg hmsg

end ClockWorld

end Rptp
