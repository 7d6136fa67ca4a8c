import Rptp.Port.Step

/-! # What a master does

A master sends on its two timeouts, answers delay requests and follows its Sync messages up. This is
everything that a message makes it do, with the calls it makes.
-/

namespace Rptp

open Machine

variable {F R : Type}

namespace DomainPort

/-- The octets of a message as the port sends it. -/
def eventOctets (port : DomainPort) (msg : EventMessage) : List UInt8 :=
  msg.toWire (.new port.domainNumber port.portIdentity)

def generalOctets (port : DomainPort) (msg : GeneralMessage) : List UInt8 :=
  msg.toWire (.new port.domainNumber port.portIdentity)

/-- The calls of an event send: only a message that was sent is timestamped. -/
def eventCalls (env : Env) (port : DomainPort) (msg : EventMessage) : List (Effect F) :=
  match env.sendResult with
  | .ok u => [.sendEvent msg (port.eventOctets msg) (.ok u), .stampEgress msg]
  | .error e => [.sendEvent msg (port.eventOctets msg) (.error e)]

theorem sendEvent_eventCalls {env : Env} {port : DomainPort} {msg : EventMessage}
    {result : SendResult} {l : List (Effect F)} (h : (port.sendEvent env msg).Returns result l) :
    result = env.sendResult ∧ l = port.eventCalls env msg := by
  rw [sendEvent, Act.returns_emit_bind] at h
  obtain ⟨l', h, rfl⟩ := h
  unfold eventCalls
  cases hsend : env.sendResult with
  | ok u =>
    simp only [hsend] at h
    obtain ⟨l'', hret, rfl⟩ := Act.returns_emit_bind.mp h
    obtain ⟨rfl, rfl⟩ := Act.returns_pure.mp hret
    exact ⟨rfl, rfl⟩
  | error e =>
    simp only [hsend] at h
    obtain ⟨rfl, rfl⟩ := Act.returns_pure.mp h
    exact ⟨rfl, rfl⟩

end DomainPort

namespace MasterPort

/-- The master after it tried to send an Announce. -/
def afterAnnounce (env : Env) (p : MasterPort F R) : MasterPort F R :=
  match env.sendResult with
  | .ok _ => { p with announceCycle := p.announceCycle.next env }
  | .error _ => p

/-- The master after it tried to send a Sync. -/
def afterSync (env : Env) (p : MasterPort F R) : MasterPort F R :=
  match env.sendResult with
  | .ok _ => { p with syncCycle := p.syncCycle.next env }
  | .error _ => p

/-- The calls of a general send. -/
def generalCalls (env : Env) (p : MasterPort F R) (msg : GeneralMessage) : List (Effect F) :=
  [.sendGeneral msg (p.port.generalOctets msg) env.sendResult]

theorem sendAnnounce_eq {env : Env} {p p' : MasterPort F R} {result : SendResult}
    {l : List (Effect F)} (h : (p.sendAnnounce env).Returns (p', result) l) :
    p' = p.afterAnnounce env ∧ result = env.sendResult ∧
      l = p.generalCalls env (.announce (p.announceCycle.announce env p.bmca.grandmasterDs)) := by
  obtain ⟨sent, l₁, l₂, hsend, hret, rfl⟩ := Act.returns_bind.mp h
  obtain ⟨rfl, rfl⟩ := DomainPort.sendGeneral_returns hsend
  unfold afterAnnounce generalCalls
  cases hresult : env.sendResult with
  | ok u =>
    rw [hresult] at hret
    obtain ⟨hret, rfl⟩ := Act.returns_pure.mp hret
    cases hret
    exact ⟨rfl, rfl, rfl⟩
  | error e =>
    rw [hresult] at hret
    obtain ⟨hret, rfl⟩ := Act.returns_pure.mp hret
    cases hret
    exact ⟨rfl, rfl, rfl⟩

theorem sendSync_eq {env : Env} {p p' : MasterPort F R} {result : SendResult}
    {l : List (Effect F)} (h : (p.sendSync env).Returns (p', result) l) :
    p' = p.afterSync env ∧ result = env.sendResult ∧
      l = p.port.eventCalls env (.twoStepSync p.syncCycle.twoStepSync) := by
  obtain ⟨sent, l₁, l₂, hsend, hret, rfl⟩ := Act.returns_bind.mp h
  obtain ⟨rfl, rfl⟩ := DomainPort.sendEvent_eventCalls hsend
  unfold afterSync
  cases hresult : env.sendResult with
  | ok u =>
    rw [hresult] at hret
    obtain ⟨hret, rfl⟩ := Act.returns_pure.mp hret
    cases hret
    exact ⟨rfl, rfl, by rw [List.append_nil]⟩
  | error e =>
    rw [hresult] at hret
    obtain ⟨hret, rfl⟩ := Act.returns_pure.mp hret
    cases hret
    exact ⟨rfl, rfl, by rw [List.append_nil]⟩

end MasterPort

variable [F64 F] [ForeignClockRecords R]

/-- What a message does to a master: the message, the master afterwards, the answer and the calls. -/
inductive Mastered (env : Env) (p : MasterPort F R) :
    PortInput → MasterPort F R → Option StateDecision → List (Effect F) → Prop
  | answered (source : PortIdentity) (req : DelayRequestMessage) (ts : TimeStamp) :
      Mastered env p (.event source (.delayReq req) ts) p (PortState.sendDecision env.sendResult)
        (p.generalCalls env (.delayResp
          (req.response p.logMinDelayRequestInterval.logMessageInterval ts source)))
  | heard {source msg now bmca l} (hfed : (msg.feedBmca p.bmca source now).Returns bmca l) :
      Mastered env p (.general source (.announce msg) now) { p with bmca := bmca } none l
  | announced : Mastered env p (.system .announceSendTimeout) (p.afterAnnounce env)
      (PortState.sendDecision env.sendResult)
      (p.generalCalls env (.announce (p.announceCycle.announce env p.bmca.grandmasterDs)))
  | synced : Mastered env p (.system .syncTimeout) (p.afterSync env)
      (PortState.sendDecision env.sendResult)
      (p.port.eventCalls env (.twoStepSync p.syncCycle.twoStepSync))
  | followedUp (sync : TwoStepSyncMessage) (egress : TimeStamp) :
      Mastered env p (.system (.timestamp ⟨.twoStepSync sync, egress⟩)) p
        (PortState.sendDecision env.sendResult)
        (p.generalCalls env (.followUp (sync.followUp egress)))
  | expired : Mastered env p (.system .announceReceiptTimeout) p
      (some .announceReceiptTimeoutExpired) []
  | decided {snapshot bmca d} (hdecided : stateDecisionEvent F p.bmca snapshot = .ok (bmca, d)) :
      Mastered env p (.system (.stateDecisionEvent snapshot)) { p with bmca := bmca } d []
  | ignored {input} (hannounce : input ≠ .system .announceSendTimeout)
      (hsync : input ≠ .system .syncTimeout) : Mastered env p input p none []

theorem MasterPort.dispatch_cases {env : Env} {p : MasterPort F R} {s' : PortState F R}
    {input : PortInput} {d : Option StateDecision} {l : List (Effect F)}
    (h : ((PortState.master p).dispatch env input).Returns (s', d) l) :
    ∃ p', s' = .master p' ∧ Mastered env p input p' d l := by
  have ignored : input ≠ .system .announceSendTimeout → input ≠ .system .syncTimeout →
      (pure (PortState.master p, none) : Act (Effect F) _).Returns (s', d) l →
      ∃ p', s' = .master p' ∧ Mastered env p input p' d l := by
    intro hannounce hsync hret
    obtain ⟨heq, rfl⟩ := Act.returns_pure.mp hret
    cases heq
    exact ⟨p, rfl, .ignored hannounce hsync⟩
  cases input with
  | event source msg ts =>
    cases msg with
    | delayReq req =>
      obtain ⟨result, hsend, hret⟩ := Act.returns_bind_pure.mp h
      cases hret
      obtain ⟨rfl, rfl⟩ := DomainPort.sendGeneral_returns hsend
      exact ⟨p, rfl, .answered source req ts⟩
    | oneStepSync sync => exact ignored (by simp) (by simp) h
    | twoStepSync sync => exact ignored (by simp) (by simp) h
  | general source msg now =>
    cases msg with
    | announce msg =>
      obtain ⟨q, hq, hret⟩ := Act.returns_bind_pure.mp h
      cases hret
      obtain ⟨bmca, hfed, rfl⟩ := Act.returns_bind_pure.mp hq
      exact ⟨_, rfl, .heard hfed⟩
    | delayResp resp => exact ignored (by simp) (by simp) h
    | followUp followUp => exact ignored (by simp) (by simp) h
  | system msg =>
    cases msg
    case announceSendTimeout =>
      obtain ⟨⟨q, result⟩, hq, hret⟩ := Act.returns_bind_pure.mp h
      cases hret
      obtain ⟨rfl, rfl, rfl⟩ := MasterPort.sendAnnounce_eq hq
      exact ⟨_, rfl, .announced⟩
    case syncTimeout =>
      obtain ⟨⟨q, result⟩, hq, hret⟩ := Act.returns_bind_pure.mp h
      cases hret
      obtain ⟨rfl, rfl, rfl⟩ := MasterPort.sendSync_eq hq
      exact ⟨_, rfl, .synced⟩
    case timestamp msg =>
      obtain ⟨eventMsg, egress⟩ := msg
      cases eventMsg with
      | twoStepSync sync =>
        obtain ⟨result, hsend, hret⟩ := Act.returns_bind_pure.mp h
        cases hret
        obtain ⟨rfl, rfl⟩ := DomainPort.sendGeneral_returns hsend
        exact ⟨p, rfl, .followedUp sync egress⟩
      | delayReq req => exact ignored (by simp) (by simp) h
      | oneStepSync sync => exact ignored (by simp) (by simp) h
    case announceReceiptTimeout =>
      obtain ⟨heq, rfl⟩ := Act.returns_pure.mp h
      cases heq
      exact ⟨p, rfl, .expired⟩
    case stateDecisionEvent snapshot =>
      obtain ⟨⟨q, decision⟩, hq, hret⟩ := Act.returns_lift_bind.mp h
      obtain ⟨heq, rfl⟩ := Act.returns_pure.mp hret
      cases heq
      obtain ⟨⟨bmca, x⟩, hdecided, heq⟩ := Checked.bind_eq_ok.mp hq
      cases heq
      exact ⟨_, rfl, .decided hdecided⟩
    all_goals exact ignored (by simp) (by simp) h

end Rptp
