import Rptp.Port.Role

/-! # The two states that track a parent

A slave and an uncalibrated port handle every message alike, up to what they make of the answer of
their servo. `handle` is the common handler.
-/

namespace Rptp

open Machine

variable {F R : Type}

def PortInput.IsDecision : PortInput → Prop
  | .system (.stateDecisionEvent _) => True
  | _ => False

theorem PortInput.IsDecision.eq {input : PortInput} (h : input.IsDecision) :
    ∃ snapshot, input = .system (.stateDecisionEvent snapshot) := by
  unfold PortInput.IsDecision at h
  split at h
  · exact ⟨_, rfl⟩
  · cases h

def PortInput.IsAnnounce : PortInput → Prop
  | .general _ (.announce _) _ => True
  | _ => False

theorem PortInput.IsAnnounce.eq {input : PortInput} (h : input.IsAnnounce) :
    ∃ source msg now, input = .general source (.announce msg) now := by
  unfold PortInput.IsAnnounce at h
  split at h
  · exact ⟨_, _, _, rfl⟩
  · cases h

/-- The states that track a parent. -/
inductive TrackingRole where
  | slave
  | uncalibrated

namespace TrackingRole

def state : TrackingRole → ParentTrackingPort F R → PortState F R
  | slave => .slave
  | uncalibrated => .uncalibrated

def react : TrackingRole → PortIdentity → ServoState → Option StateDecision
  | slave => SlavePort.react
  | uncalibrated => UncalibratedPort.react

@[simp] theorem tracking_state (k : TrackingRole) (p : ParentTrackingPort F R) :
    (k.state p).tracking = some p := by
  cases k <;> rfl

theorem tracks_state (k : TrackingRole) (p : ParentTrackingPort F R) :
    (k.state p).role.Tracks p.bmca.parentPortIdentity := by
  cases k <;> rfl

end TrackingRole

/-- A port tracks a parent in one of the two states, or it tracks none. -/
theorem PortState.tracking_cases (s : PortState F R) :
    (∃ (k : TrackingRole) (p : ParentTrackingPort F R), s = k.state p) ∨
      ∀ parent, ¬ s.role.Tracks parent := by
  cases s with
  | slave p => exact .inl ⟨.slave, p, rfl⟩
  | uncalibrated p => exact .inl ⟨.uncalibrated, p, rfl⟩
  | initializing p => exact .inr fun _ => id
  | listening p => exact .inr fun _ => id
  | master p => exact .inr fun _ => id
  | preMaster p => exact .inr fun _ => id
  | passive p => exact .inr fun _ => id
  | faulty p => exact .inr fun _ => id

namespace PortInput

/-- A message of the parent on which a sample is taken. -/
def Samples (parent : ParentPortIdentity) : PortInput → Prop
  | .event source (.oneStepSync _) _ => parent.matchesSource source = true
  | .general source (.followUp _) _ => parent.matchesSource source = true
  | _ => False

theorem Samples.not_isDecision {parent : ParentPortIdentity} {input : PortInput}
    (h : input.Samples parent) : ¬ input.IsDecision := by
  cases input with
  | event source msg ts => exact id
  | general source msg now => exact id
  | system msg => exact absurd h id

end PortInput

namespace ParentTrackingPort

/-- The delay mechanism after the fragment of a message has been recorded. -/
def record (p : ParentTrackingPort F R) : PortInput → EndToEndDelayMechanism
  | .event source (.oneStepSync sync) ts =>
    if p.bmca.matchesParent source then p.delayMechanism.recordOneStepSync sync ts
    else p.delayMechanism
  | .event source (.twoStepSync sync) ts =>
    if p.bmca.matchesParent source then p.delayMechanism.recordTwoStepSync sync ts
    else p.delayMechanism
  | .general source (.followUp followUp) _ =>
    if p.bmca.matchesParent source then p.delayMechanism.recordFollowUp followUp
    else p.delayMechanism
  | .general source (.delayResp resp) _ =>
    if p.bmca.matchesParent source then p.delayMechanism.recordDelayResponse resp
    else p.delayMechanism
  | .system (.timestamp ⟨.delayReq req, ts⟩) => p.delayMechanism.recordDelayRequest req ts
  | _ => p.delayMechanism

end ParentTrackingPort

variable [F64 F] [ForeignClockRecords R]

/-- What a port that tracks a parent does with a message. -/
def ParentTrackingPort.handle (react : PortIdentity → ServoState → Option StateDecision) (env : Env)
    (p : ParentTrackingPort F R) :
    PortInput → Act (Effect F) (ParentTrackingPort F R × Option StateDecision)
  | .event source (.oneStepSync sync) ts => p.processOneStepSync react sync source ts
  | .event source (.twoStepSync sync) ts => pure (p.processTwoStepSync sync source ts, none)
  | .general source (.announce msg) now => do
    let p ← p.processAnnounce env msg source now
    pure (p, none)
  | .general source (.followUp followUp) _ => p.processFollowUp react followUp source
  | .general source (.delayResp resp) _ => pure (p.processDelayResponse resp source, none)
  | .system .delayRequestTimeout => do
    let (p, result) ← p.sendDelayRequest env
    pure (p, PortState.sendDecision result)
  | .system (.timestamp ⟨.delayReq req, ts⟩) => pure (p.processDelayRequest req ts, none)
  | .system .announceReceiptTimeout => pure (p, some .announceReceiptTimeoutExpired)
  | .system (.stateDecisionEvent snapshot) => Act.lift (p.stateDecisionEvent snapshot)
  | _ => pure (p, none)

/-- The results of the common handler. -/
inductive Handled (react : PortIdentity → ServoState → Option StateDecision) (env : Env)
    (p : ParentTrackingPort F R) :
    PortInput → ParentTrackingPort F R → Option StateDecision → List (Effect F) → Prop
  | recorded {input} (hin : ¬ input.IsDecision) (hsample : ¬ input.Samples p.bmca.parentPortIdentity) :
      Handled react env p input { p with delayMechanism := p.record input } none []
  | sampled {input source p' d l} (hin : input.Samples p.bmca.parentPortIdentity)
      (hparent : p.bmca.parentPortIdentity = ⟨source⟩)
      (hfed : (ParentTrackingPort.feedServo (react source)
        { p with delayMechanism := p.record input }).Returns (p', d) l) :
      Handled react env p input p' d l
  | announced {source msg now bmca l} (hfed : (msg.feedBmca p.bmca source now).Returns bmca l) :
      Handled react env p (.general source (.announce msg) now)
        { p with announceReceiptTimeout := p.announceReceiptTimeout.restart env, bmca := bmca } none l
  | requested {result l} (hsent : (p.port.sendEvent env
        (.delayReq (p.delayMechanism.delayRequest env).2)).Returns result l) :
      Handled react env p (.system .delayRequestTimeout)
        { p with delayMechanism := (p.delayMechanism.delayRequest env).1 }
        (PortState.sendDecision result) l
  | expired : Handled react env p (.system .announceReceiptTimeout) p
      (some .announceReceiptTimeoutExpired) []
  | decided {snapshot bmca d} (hdecided : stateDecisionEvent F p.bmca snapshot = .ok (bmca, d)) :
      Handled react env p (.system (.stateDecisionEvent snapshot)) { p with bmca := bmca } d []

theorem ParentTrackingPort.handle_cases {react : PortIdentity → ServoState → Option StateDecision}
    {env : Env} {p p' : ParentTrackingPort F R} {input : PortInput} {d : Option StateDecision}
    {l : List (Effect F)} (h : (p.handle react env input).Returns (p', d) l) :
    Handled react env p input p' d l := by
  have recorded : ∀ {q : ParentTrackingPort F R}, ¬ input.IsDecision →
      ¬ input.Samples p.bmca.parentPortIdentity →
      q = { p with delayMechanism := p.record input } →
      (pure (q, none) : Act (Effect F) _).Returns (p', d) l → Handled react env p input p' d l := by
    rintro q hin hsample rfl hret
    obtain ⟨heq, rfl⟩ := Act.returns_pure.mp hret
    cases heq
    exact .recorded hin hsample
  cases input with
  | event source msg ts =>
    cases msg with
    | delayReq req => exact recorded id id rfl h
    | twoStepSync sync =>
      refine recorded id id ?_ h
      rw [processTwoStepSync, record]
      split_ifs
      · rfl
      · rfl
    | oneStepSync sync =>
      by_cases hparent : p.bmca.matchesParent source = true
      · refine .sampled hparent (congrArg ParentPortIdentity.mk (beq_iff_eq.mp hparent)) ?_
        rw [record, if_pos hparent]
        rwa [handle, processOneStepSync, if_pos hparent] at h
      · rw [handle, processOneStepSync, if_neg hparent] at h
        refine recorded id hparent ?_ h
        rw [record, if_neg hparent]
  | general source msg now =>
    cases msg with
    | announce msg =>
      obtain ⟨q, hq, hret⟩ := Act.returns_bind_pure.mp h
      cases hret
      obtain ⟨bmca, hbmca, rfl⟩ := Act.returns_bind_pure.mp hq
      exact .announced hbmca
    | delayResp resp =>
      refine recorded id id ?_ h
      rw [processDelayResponse, record]
      split_ifs
      · rfl
      · rfl
    | followUp followUp =>
      by_cases hparent : p.bmca.matchesParent source = true
      · refine .sampled hparent (congrArg ParentPortIdentity.mk (beq_iff_eq.mp hparent)) ?_
        rw [record, if_pos hparent]
        rwa [handle, processFollowUp, if_pos hparent] at h
      · rw [handle, processFollowUp, if_neg hparent] at h
        refine recorded id hparent ?_ h
        rw [record, if_neg hparent]
  | system msg =>
    cases msg
    case delayRequestTimeout =>
      obtain ⟨⟨q, result⟩, hq, hret⟩ := Act.returns_bind_pure.mp h
      cases hret
      obtain ⟨sent, hsent, hsame⟩ := Act.returns_bind_pure.mp hq
      cases hsame
      exact .requested hsent
    case announceReceiptTimeout =>
      obtain ⟨hret, rfl⟩ := Act.returns_pure.mp h
      cases hret
      exact .expired
    case stateDecisionEvent snapshot =>
      obtain ⟨hq, rfl⟩ := Act.returns_lift.mp h
      obtain ⟨⟨bmca, d'⟩, hdecided, hret⟩ := Checked.bind_eq_ok.mp hq
      cases hret
      exact .decided hdecided
    case timestamp msg =>
      obtain ⟨eventMsg, egress⟩ := msg
      cases eventMsg with
      | delayReq req => exact recorded id id rfl h
      | oneStepSync sync => exact recorded id id rfl h
      | twoStepSync sync => exact recorded id id rfl h
    all_goals exact recorded id id rfl h

/-- Both states dispatch their messages to the common handler. -/
theorem TrackingRole.dispatch_state (k : TrackingRole) (env : Env) (p : ParentTrackingPort F R)
    (input : PortInput) : (k.state p).dispatch env input =
      p.handle k.react env input >>= fun r => pure (k.state r.1, r.2) := by
  cases input with
  | event source msg ts =>
    cases msg with
    | oneStepSync sync => cases k <;> rfl
    | twoStepSync sync => cases k <;> exact (pure_bind _ _).symm
    | delayReq req => cases k <;> exact (pure_bind _ _).symm
  | general source msg now =>
    cases msg with
    | announce msg =>
      rw [ParentTrackingPort.handle, bind_assoc]
      cases k <;> rfl
    | followUp followUp => cases k <;> rfl
    | delayResp resp => cases k <;> exact (pure_bind _ _).symm
  | system msg =>
    cases msg
    case delayRequestTimeout =>
      rw [ParentTrackingPort.handle, bind_assoc]
      cases k <;> rfl
    case stateDecisionEvent snapshot => cases k <;> rfl
    case timestamp msg =>
      obtain ⟨eventMsg, egress⟩ := msg
      cases k <;> cases eventMsg <;> exact (pure_bind _ _).symm
    all_goals cases k <;> exact (pure_bind _ _).symm

theorem TrackingRole.dispatch_returns {k : TrackingRole} {env : Env} {p : ParentTrackingPort F R}
    {input : PortInput} {s' : PortState F R} {d : Option StateDecision} {l : List (Effect F)}
    (h : ((k.state p).dispatch env input).Returns (s', d) l) :
    ∃ p', s' = k.state p' ∧ (p.handle k.react env input).Returns (p', d) l := by
  rw [k.dispatch_state] at h
  obtain ⟨⟨p', d'⟩, hp', hret⟩ := Act.returns_bind_pure.mp h
  cases hret
  exact ⟨p', rfl, hp'⟩

theorem dispatch_handled {env : Env} {s s' : PortState F R} {p : ParentTrackingPort F R}
    {input : PortInput} {d : Option StateDecision} {l : List (Effect F)}
    (hp : s.tracking = some p) (h : (s.dispatch env input).Returns (s', d) l) :
    ∃ (k : TrackingRole) (p' : ParentTrackingPort F R), s'.tracking = some p' ∧
      (p.handle k.react env input).Returns (p', d) l := by
  rcases s.tracking_cases with ⟨k, q, rfl⟩ | huntracked
  · rw [k.tracking_state] at hp
    cases hp
    obtain ⟨p', rfl, hp'⟩ := TrackingRole.dispatch_returns h
    exact ⟨k, p', k.tracking_state p', hp'⟩
  · rw [PortState.tracking_eq_none huntracked] at hp
    cases hp

end Rptp
