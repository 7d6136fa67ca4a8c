import Rptp.Network.Clock
import Rptp.Port.Heritage

/-! # Clocks that rest on what they are told

What a clock holds, broadcasts and announces rests on what it was told. The steps of its ports are
those of `step_informed`; this module carries them through the clock, which takes the reports of the
ports in and answers with state decisions.
-/

namespace Rptp

open Machine

variable {F R : Type} {v : Standpoint} {env : Env} {l : List (Effect F)}

/-- A port driver whose port is informed by what the clock was told. -/
def PortFsm.Informed [ForeignClockRecords R] (v : Standpoint) (fsm : PortFsm F R) :
    Prop :=
  ∃ s, fsm = .new s ∧ s.Informed v

/-- The clock holds and broadcasts nothing but what it was told. -/
structure OrdinaryClock.Informed (v : Standpoint) (clock : OrdinaryClock F) :
    Prop where
  dataset : clock.defaultDs = v.own
  held : clock.foreignCandidates.Told v
  notified : ∀ timeout ∈ clock.portNotification, (PortInput.system timeout.msg).Told v

structure BoundaryClock.Informed (v : Standpoint) (clock : BoundaryClock) : Prop where
  dataset : clock.defaultDs = v.own
  held : ∀ entry ∈ clock.foreignCandidates.byPort, entry.2.Told v
  notified : ∀ timeout ∈ clock.portNotification, (PortInput.system timeout.msg).Told v

theorem OrdinaryClock.Informed.notifyClock {clock clock' : OrdinaryClock F}
    (hclock : clock.Informed v) (hl : ∀ e ∈ l, e.Told v)
    (h : notifyClock env clock l = .ok clock') : clock'.Informed v := by
  induction l generalizing clock with
  | nil =>
    cases h
    exact hclock
  | cons e l ih =>
    have hrest := fun e he => hl e (List.mem_cons_of_mem _ he)
    obtain ⟨clock₁, hcall, h⟩ := Checked.bind_eq_ok.mp h
    refine ih ?_ hrest h
    cases e
    case trigger port snapshot =>
      have htold : snapshot.Told v := hl _ List.mem_cons_self
      rw [trigger_eq hcall]
      refine ⟨hclock.dataset, htold, fun timeout htimeout => ?_⟩
      obtain ⟨old, -, rfl⟩ := Option.mem_map.mp htimeout
      exact ⟨hclock.dataset, htold⟩
    all_goals
      cases hcall
      exact hclock

theorem MultiPortForeignCandidates.remember_told {c : MultiPortForeignCandidates}
    {port : PortNumber} {snapshot : BestForeignSnapshot}
    (hc : ∀ entry ∈ c.byPort, entry.2.Told v) (hs : snapshot.Told v) :
    ∀ entry ∈ (c.remember port snapshot).byPort, entry.2.Told v := by
  cases snapshot with
  | empty =>
    intro entry hentry
    exact hc entry (List.mem_filter.mp hentry).1
  | qualified ds source receiver =>
    intro entry hentry
    rcases mem_insert hentry with rfl | hentry
    · exact hs
    · exact hc entry hentry

theorem MultiPortForeignCandidates.best_told {c : MultiPortForeignCandidates}
    {eBest : BestForeignSnapshot} (hc : ∀ entry ∈ c.byPort, entry.2.Told v)
    (h : c.best = .ok eBest) : eBest.Told v := by
  have hfold : ∀ (entries : List (PortNumber × BestForeignSnapshot)) (e e' : BestForeignSnapshot),
      (∀ entry ∈ entries, entry.2.Told v) → e.Told v →
      entries.foldlM (fun best entry => do
        if ← entry.2.isBetterOrBetterByTopology best then pure entry.2 else pure best) e =
        (.ok e' : Checked _) → e'.Told v := by
    intro entries
    induction entries with
    | nil =>
      intro e e' _ he h
      cases h
      exact he
    | cons entry entries ih =>
      intro e e' hentries he h
      rw [List.foldlM_cons] at h
      obtain ⟨e₁, hstep, h⟩ := Checked.bind_eq_ok.mp h
      obtain ⟨better, -, hstep⟩ := Checked.bind_eq_ok.mp hstep
      refine ih e₁ e' (fun x hx => hentries x (List.mem_cons_of_mem _ hx)) ?_ h
      cases better with
      | true =>
        cases hstep
        exact hentries entry List.mem_cons_self
      | false =>
        cases hstep
        exact he
  exact hfold c.byPort .empty eBest hc trivial h

theorem BoundaryClock.Informed.notifyClock {clock clock' : BoundaryClock}
    (hclock : clock.Informed v) (hl : ∀ e ∈ l, e.Told v)
    (h : notifyClock env clock l = .ok clock') : clock'.Informed v := by
  induction l generalizing clock with
  | nil =>
    cases h
    exact hclock
  | cons e l ih =>
    have hrest := fun e he => hl e (List.mem_cons_of_mem _ he)
    obtain ⟨clock₁, hcall, h⟩ := Checked.bind_eq_ok.mp h
    refine ih ?_ hrest h
    cases e
    case trigger port snapshot =>
      have htold : snapshot.Told v := hl _ List.mem_cons_self
      have hheld : ∀ entry ∈ (clock.foreignCandidates.remember port snapshot).byPort,
          entry.2.Told v :=
        MultiPortForeignCandidates.remember_told hclock.held htold
      obtain ⟨eBest, hbest, rfl⟩ := trigger_eq hcall
      refine ⟨hclock.dataset, hheld, fun timeout htimeout => ?_⟩
      obtain ⟨old, -, rfl⟩ := List.mem_map.mp htimeout
      exact ⟨hclock.dataset, MultiPortForeignCandidates.best_told hheld hbest⟩
    all_goals
      cases hcall
      exact hclock

section Port

variable [F64 F] [ForeignClockRecords R] [FaithfulForeignClockRecords R] {input : PortInput}

theorem PortFsm.Informed.process {fsm fsm' : PortFsm F R} (hfsm : fsm.Informed v)
    (hin : input.Told v) (h : (fsm.process env input).Returns fsm' l) :
    fsm'.Informed v ∧ ∀ e ∈ l, e.Told v := by
  obtain ⟨s, rfl, hs⟩ := hfsm
  rw [process_new, map_eq_pure_bind, Act.returns_bind_pure] at h
  obtain ⟨s', hstep, rfl⟩ := h
  exact ⟨⟨s', rfl, step_informed hs hin hstep⟩, step_tells hs hin hstep⟩

omit [F64 F] [FaithfulForeignClockRecords R] in
theorem newPort_informed {profile : PortProfile F} {domain : DomainNumber} {number : PortNumber}
    {records : R} {s : PortState F R} (hrecords : ForeignClockRecords.iter records = [])
    (hnumber : v.Port number) (h : newPort profile v.own domain number records = .ok s) :
    s.Informed v := by
  obtain ⟨previous, -, hret⟩ := Checked.bind_eq_ok.mp h
  cases hret
  exact ⟨BestForeignRecord.told_empty hrecords, hnumber, ⟨rfl, hnumber⟩, ⟨rfl, hnumber⟩, rfl,
    trivial⟩

end Port

/-- The datagram carries a data set of `T`, if it carries an Announce. -/
def Datagram.Told (T : PortIdentity → ClockDS → Prop) : Datagram → Prop
  | .event _ => True
  | .general buf => ∀ (hf : WellFramed buf) (msg : AnnounceMessage),
      decodeBody GeneralMessage.new buf = pure (.announce msg) →
      T (headerSource buf hf.header) msg.foreignClockDs

namespace ClockNode

/-- Everything at a clock rests on what it was told. -/
def Informed [ForeignClockRecords R] (v : Standpoint) : ClockNode F R → Prop
  | ordinary node => v.Port ⟨1⟩ ∧ node.clock.Informed v ∧ node.fsm.Informed v
  | boundary node => (∀ n, v.Port n) ∧ node.clock.Informed v ∧ ∀ fsm ∈ node.ports, fsm.Informed v

variable [ForeignClockRecords R] {node node' : ClockNode F R}

theorem Informed.ports (h : node.Informed v) : ∀ fsm ∈ node.ports, fsm.Informed v := by
  cases node with
  | ordinary node =>
    intro fsm hfsm
    rw [List.mem_singleton.mp hfsm]
    exact h.2.2
  | boundary node => exact h.2.2

theorem Informed.notifications (h : node.Informed v) :
    ∀ msg ∈ node.notifications, (PortInput.system msg).Told v := by
  intro msg hmsg
  cases node with
  | ordinary node =>
    obtain ⟨timeout, htimeout, rfl⟩ := List.mem_map.mp hmsg
    exact h.2.1.notified timeout (Option.mem_toList.mp htimeout)
  | boundary node =>
    obtain ⟨timeout, htimeout, rfl⟩ := List.mem_map.mp hmsg
    exact h.2.1.notified timeout htimeout

variable [F64 F]

theorem Informed.create {records : R} (hrecords : ForeignClockRecords.iter records = [])
    (hnode : node.Informed v) (h : (node.create records).Returns node' l) :
    node'.Informed v ∧ l = [] := by
  cases node with
  | ordinary node =>
    obtain ⟨rfl, rfl⟩ := Act.returns_pure.mp h
    exact ⟨hnode, rfl⟩
  | boundary node =>
    obtain ⟨node', hact, rfl⟩ := Act.returns_bind_pure.mp h
    obtain ⟨⟨clock, state⟩, hport, hret⟩ := Act.returns_lift_bind.mp hact
    obtain ⟨⟨enumeration, number⟩, -, hrest⟩ := Checked.bind_eq_ok.mp hport
    cases number with
    | none =>
      cases hrest
      obtain ⟨rfl, rfl⟩ := Act.returns_pure.mp hret
      obtain ⟨hports, hclock, hfsms⟩ := hnode
      exact ⟨⟨hports, ⟨hclock.dataset, hclock.held, hclock.notified⟩, hfsms⟩, rfl⟩
    | some number =>
      obtain ⟨s, hs, hpair⟩ := Checked.bind_eq_ok.mp hrest
      cases hpair
      obtain ⟨rfl, rfl⟩ := Act.returns_pure.mp hret
      obtain ⟨hports, hclock, hfsms⟩ := hnode
      rw [hclock.dataset] at hs
      refine ⟨⟨hports, ⟨hclock.dataset, hclock.held, fun timeout htimeout => ?_⟩,
        fun fsm hfsm => ?_⟩, rfl⟩
      · rcases List.mem_append.mp htimeout with htimeout | htimeout
        · exact hclock.notified timeout htimeout
        · rw [List.mem_singleton.mp htimeout]
          exact ⟨hclock.dataset, trivial⟩
      · rcases List.mem_append.mp hfsm with hfsm | hfsm
        · exact hfsms fsm hfsm
        · rw [List.mem_singleton.mp hfsm]
          exact ⟨s, rfl, newPort_informed hrecords (hports number) hs⟩

theorem Fresh.informed (h : node.Fresh v.own) (hports : ∀ n, node.Numbers n → v.Port n) :
    node.Informed v := by
  cases node with
  | ordinary node =>
    have hone : v.Port ⟨1⟩ := hports ⟨1⟩ rfl
    obtain ⟨domain, profile, records, hrecords, hnew⟩ := h
    obtain ⟨state, hstate, hnode⟩ := Checked.bind_eq_ok.mp hnew
    cases hstate
    obtain ⟨⟨clock, port⟩, hport, hret⟩ := Checked.bind_eq_ok.mp hnode
    obtain ⟨numbered, hnumber, hport⟩ := Checked.bind_eq_ok.mp hport
    cases hnumber
    obtain ⟨s, hs, hpair⟩ := Checked.bind_eq_ok.mp hport
    cases hpair
    cases hret
    refine ⟨hone, ⟨rfl, trivial, fun timeout htimeout => ?_⟩, s, rfl,
      newPort_informed hrecords hone hs⟩
    cases htimeout
    exact ⟨rfl, trivial⟩
  | boundary node =>
    refine h.created ?_ fun records node node' l hrecords hnode hcreate =>
      (hnode.create hrecords hcreate).1
    intro domain numPorts start hnew
    obtain ⟨clock, hclock, hnode⟩ := Checked.bind_eq_ok.mp hnew
    obtain ⟨enumeration, -, hret⟩ := Checked.bind_eq_ok.mp hclock
    cases hret
    cases hnode
    exact ⟨fun n => hports n trivial, ⟨rfl, by simp [MultiPortForeignCandidates.new], by simp⟩,
      by simp⟩

variable [FaithfulForeignClockRecords R] {index : ℕ} {input : PortInput}

theorem Informed.deliver (hnode : node.Informed v) (hin : input.Told v)
    (h : (node.deliver env index input).Returns node' l) :
    node'.Informed v ∧ ∀ e ∈ l, e.Told v := by
  cases node with
  | ordinary node =>
    cases index with
    | zero =>
      obtain ⟨node', hprocess, rfl⟩ := Act.returns_bind_pure.mp h
      obtain ⟨hfsm, hclock⟩ := OrdinaryNode.process_returns hprocess
      obtain ⟨hport, hl⟩ := hnode.2.2.process hin hfsm
      exact ⟨⟨hnode.1, hnode.2.1.notifyClock hl hclock, hport⟩, hl⟩
    | succ index =>
      obtain ⟨rfl, rfl⟩ := Act.returns_pure.mp h
      exact ⟨hnode, by simp⟩
  | boundary node =>
    obtain ⟨node', hdeliver, rfl⟩ := Act.returns_bind_pure.mp h
    rcases BoundaryNode.deliver_returns hdeliver with ⟨hnone, rfl⟩ |
      ⟨fsm, fsm', clock, hfsm, hprocess, hnotify, rfl⟩
    · unfold BoundaryNode.deliver at hdeliver
      rw [hnone] at hdeliver
      obtain ⟨-, rfl⟩ := Act.returns_pure.mp hdeliver
      exact ⟨hnode, by simp⟩
    · obtain ⟨hport, hl⟩ := (hnode.2.2 fsm (List.mem_of_getElem? hfsm)).process hin hprocess
      refine ⟨⟨hnode.1, hnode.2.1.notifyClock hl hnotify, fun g hg => ?_⟩, hl⟩
      rcases List.mem_or_eq_of_mem_set hg with hg | rfl
      · exact hnode.2.2 g hg
      · exact hport

theorem Informed.receive {timestamp : TimeStamp} {now : Instant} {d : Datagram}
    (hnode : node.Informed v) (hd : d.Told v.Told)
    (h : (node.receive env index timestamp now d).Returns node' l) :
    node'.Informed v ∧ ∀ e ∈ l, e.Told v := by
  rcases receive_returns h with ⟨rfl, rfl⟩ | ⟨buf, rfl, hf, msg, -, hdeliver⟩ |
    ⟨buf, rfl, hf, msg, hmsg, hdeliver⟩
  · exact ⟨hnode, by simp⟩
  · have htold : (PortInput.event (headerSource buf hf.header) msg timestamp).Told v := trivial
    exact hnode.deliver htold hdeliver
  · refine hnode.deliver ?_ hdeliver
    cases msg with
    | announce msg => exact hd hf msg hmsg
    | followUp msg => trivial
    | delayResp msg => trivial

end ClockNode

/-- What reaches a clock tells it of `T`, if it carries an Announce. -/
def ClockInput.Told [ForeignClockRecords R] (T : PortIdentity → ClockDS → Prop) : ClockInput R Datagram → Prop
  | .datagram _ _ _ _ d => d.Told T
  | _ => True

namespace ClockWorld

variable [ForeignClockRecords R] {w w' : ClockWorld F R}

/-- The clock and all its state decisions so far rest on what it was told. -/
structure Informed (v : Standpoint) (w : ClockWorld F R) : Prop where
  node : w.node.Informed v
  sent : ∀ msg ∈ w.sent, (PortInput.system msg).Told v

variable [F64 F]

theorem informed_start {node : ClockNode F R} (h : node.Fresh v.own)
    (hports : ∀ n, node.Numbers n → v.Port n) : (start node).Informed v :=
  ⟨h.informed hports, (h.informed hports).notifications⟩

variable [FaithfulForeignClockRecords R]

theorem Informed.next {node : ClockNode F R} {input : ClockInput R Datagram}
    (hw : w.Informed v) (hin : input.Told v.Told) (h : (w.next input).Returns node l) :
    node.Informed v ∧ ∀ e ∈ l, e.Told v := by
  cases input with
  | create records hrecords =>
    obtain ⟨hnode, rfl⟩ := hw.node.create hrecords h
    exact ⟨hnode, by simp⟩
  | system index env msg hmsg =>
    have htold : (PortInput.system msg).Told v := by
      cases msg
      case stateDecisionEvent snapshot => exact absurd trivial hmsg
      all_goals trivial
    exact hw.node.deliver htold h
  | notification index env number =>
    simp only [ClockWorld.next] at h
    cases hmsg : w.sent[number]? with
    | none =>
      rw [hmsg] at h
      obtain ⟨rfl, rfl⟩ := Act.returns_pure.mp h
      exact ⟨hw.node, by simp⟩
    | some msg =>
      rw [hmsg] at h
      exact hw.node.deliver (hw.sent msg (List.mem_of_getElem? hmsg)) h
  | datagram index env timestamp now d => exact hw.node.receive hin h

/-- One input that the clock may be told keeps it informed. -/
theorem Informed.step {input : ClockInput R Datagram} (hw : w.Informed v) (hin : input.Told v.Told)
    (h : (w.step input).Returns w' l) : w'.Informed v ∧ ∀ e ∈ l, e.Told v := by
  obtain ⟨node, hnext, rfl⟩ := Act.returns_bind_pure.mp h
  obtain ⟨hnode, hl⟩ := hw.next hin hnext
  refine ⟨⟨hnode, fun msg hmsg => ?_⟩, hl⟩
  rcases List.mem_append.mp hmsg with hmsg | hmsg
  · exact hw.sent msg hmsg
  · exact hnode.notifications msg hmsg

end ClockWorld

end Rptp
