import Rptp.Port.Legality
import Rptp.Port.Step
import Rptp.Clock.Calibration

/-! # Every message is answered without a panic

The offset of a sample is half of a difference of timestamp differences, so it is far from the ends
of its type. A servo that holds such a sample and whose drift bounds are in order always returns. A
port with such a servo answers every message of the network.
-/

namespace Rptp

open Machine

variable {F R : Type} [F64 F]

/-- The offset of the sample comes from differences of timestamps. -/
def ServoSample.Bounded (s : ServoSample) : Prop := s.offset.Within (2 ^ 48)

theorem EndToEndDelayMechanism.sample_bounded (m : EndToEndDelayMechanism) :
    ∃ r, m.sample = .ok r ∧ ∀ s ∈ r, s.Bounded := by
  rcases m.sample_spec with ⟨h, -⟩ | ⟨s, t₂, t₁, t₄, t₃, h, hs⟩
  · exact ⟨none, h, by simp⟩
  · refine ⟨some s, h, ?_⟩
    intro x hx
    cases hx
    have h₂ := t₂.ns_range
    have h₁ := t₁.ns_range
    have h₄ := t₄.ns_range
    have h₃ := t₃.ns_range
    have hhalf := TimeInterval.two_mul_tdiv_two ((t₂.ns - t₁.ns) - (t₄.ns - t₃.ns))
    rw [ServoSample.Bounded, TimeInterval.Within, abs_le, hs.offset]
    omega

section Servo

theorem ServoSample.drift_returns {s other : ServoSample} (hs : s.Bounded) (ho : other.Bounded)
    (minDelta : TimeInterval) : ∃ r : ServoSampleOrdering F, s.drift other minDelta = .ok r := by
  obtain ⟨offset, hoffset, -⟩ := TimeInterval.sub_spec (hs.mono (by norm_num)) (ho.mono (by norm_num))
  exact ⟨_, by rw [drift_eq, hoffset, Checked.map_ok]⟩

/-- The drift bounds are in order and the stored sample is bounded. -/
structure ServoDriftEstimate.Sound (e : ServoDriftEstimate F) : Prop where
  bounds : F64.le e.min.drift e.max.drift = true
  sample : ∀ s ∈ e.sample, s.Bounded

theorem ServoDriftEstimate.estimate_spec {e : ServoDriftEstimate F} (he : e.Sound)
    {sample : ServoSample} (hs : sample.Bounded) :
    ∃ e' drift, e.estimate sample = .ok (e', drift) ∧ e'.Sound := by
  have fresh : ∀ s ∈ some sample, s.Bounded := by
    intro s h
    cases h
    exact hs
  unfold estimate
  cases hprev : e.sample with
  | none => exact ⟨_, _, rfl, he.bounds, fresh⟩
  | some prev =>
    obtain ⟨ordering, hordering⟩ :=
      ServoSample.drift_returns (F := F) hs (he.sample prev hprev) e.minDelta
    dsimp only
    rw [hordering, Checked.ok_bind]
    cases ordering with
    | outOfOrder => exact ⟨_, _, rfl, he.bounds, by simp⟩
    | inOrderButLowDelta => exact ⟨_, _, rfl, he⟩
    | inOrder drift =>
      dsimp only
      rw [Drift.clamp, he.bounds, Checked.assert_true, Checked.ok_bind]
      exact ⟨_, _, rfl, he.bounds, fresh⟩

/-- The servo can take a sample. -/
def Servo.Sound : Servo F → Prop
  | stepping => True
  | pi s => s.driftEstimate.Sound

namespace PiServo

theorem step_ensures {s : PiServo F} (hs : s.driftEstimate.Sound) (sample : ServoSample) :
    (s.step sample).Ensures fun r => r.1.driftEstimate.Sound := by
  obtain ⟨⟨t, stepped⟩, l, hstep⟩ := s.step_safe sample
  refine ⟨(t, stepped), l, hstep, ?_⟩
  rcases step_cases hstep with ⟨ts, -, -, rfl, -, -⟩ | ⟨-, rfl, -, -⟩
  · exact ⟨hs.bounds, fun s h => by cases h⟩
  · exact hs

theorem calibrate_ensures {s : PiServo F} (hs : s.driftEstimate.Sound) {sample : ServoSample}
    (hb : sample.Bounded) : (s.calibrate sample).Ensures fun r => r.1.driftEstimate.Sound := by
  obtain ⟨e, drift, hr, he⟩ := ServoDriftEstimate.estimate_spec hs hb
  refine Act.ensures_bind (Act.ensures_lift hr rfl) ?_
  rintro a rfl
  cases drift with
  | none => exact Act.ensures_pure he
  | some d =>
    refine Act.ensures_bind (Act.ensures_emit _) fun _ _ => Act.ensures_pure ?_
    exact ⟨he.bounds, fun s h => by cases h⟩

theorem feed_ensures {s : PiServo F} (hs : s.driftEstimate.Sound) {sample : ServoSample}
    (hb : sample.Bounded) : (s.feed sample).Ensures fun r => r.1.driftEstimate.Sound := by
  refine Act.ensures_bind (Act.ensures_emit _) fun _ _ => ?_
  refine Act.ensures_bind (step_ensures hs sample) ?_
  rintro ⟨t, stepped⟩ ht
  cases stepped with
  | some state => exact Act.ensures_pure ht
  | none =>
    dsimp only
    cases t.state with
    | unlocked => exact Act.ensures_bind (calibrate_ensures ht hb) fun r hr => Act.ensures_pure hr
    | calibrating => exact Act.ensures_bind (calibrate_ensures ht hb) fun r hr => Act.ensures_pure hr
    | locked =>
      refine Act.ensures_bind (P := fun _ => True) ?_ fun _ _ => Act.ensures_pure ht
      exact Act.ensures_bind (Act.ensures_emit _) fun _ _ => Act.ensures_pure trivial

end PiServo

/-- A sound servo takes every bounded sample and stays sound. -/
theorem Servo.feed_ensures {servo : Servo F} (hs : servo.Sound) {sample : ServoSample}
    (hb : sample.Bounded) : (servo.feed sample).Ensures fun r => r.1.Sound := by
  cases servo with
  | pi s => exact Act.ensures_bind (PiServo.feed_ensures hs hb) fun r hr => Act.ensures_pure hr
  | stepping =>
    refine Act.ensures_bind (P := fun _ => True) ?_ fun _ _ => Act.ensures_pure trivial
    refine Act.ensures_bind (Act.ensures_emit _) fun _ _ => ?_
    refine Act.ensures_bind (Act.ensures_lift (sample.ingress.checkedSub_spec sample.offset) rfl) ?_
    rintro ts rfl
    cases TimeStamp.ofNs (sample.ingress.ns - sample.offset.ns) with
    | none => exact Act.ensures_pure trivial
    | some ts => exact Act.ensures_bind (Act.ensures_emit _) fun _ _ => Act.ensures_pure trivial

end Servo

/-- The configured drift bounds are in order. -/
def ServoConfig.DriftOrdered : ServoConfig F → Prop
  | stepping => True
  | pi config => F64.le config.driftMin.drift config.driftMax.drift = true

theorem ServoConfig.DriftOrdered.servo {config : ServoConfig F} (h : config.DriftOrdered) :
    config.servo.Sound := by
  cases config with
  | stepping => trivial
  | pi config => exact ⟨h, fun s hs => by cases hs⟩

/-- The servo of a state that has one. -/
def PortState.servo (s : PortState F R) : Option (Servo F) :=
  s.tracking.map ParentTrackingPort.servo

/-- The servo of the port, and the one that its profile builds, can take samples. -/
structure PortState.Sound (s : PortState F R) : Prop where
  profile : s.handover.profile.servoConfig.DriftOrdered
  servo : ∀ x ∈ s.servo, x.Sound

section Sends

variable (env : Env) (port : DomainPort)

omit [F64 F] in
theorem DomainPort.sendEvent_safe (msg : EventMessage) :
    (port.sendEvent env msg : Act (Effect F) _).Safe := by
  refine Act.safe_bind (Act.safe_emit _) fun _ _ _ => ?_
  cases env.sendResult with
  | error e => exact Act.safe_pure _
  | ok u => exact Act.safe_bind (Act.safe_emit _) fun _ _ _ => Act.safe_pure _

omit [F64 F] in
theorem DomainPort.sendGeneral_safe (msg : GeneralMessage) :
    (port.sendGeneral env msg : Act (Effect F) _).Safe :=
  Act.safe_bind (Act.safe_emit _) fun _ _ _ => Act.safe_pure _

omit [F64 F] in
theorem ParentTrackingPort.sendDelayRequest_ensures (p : ParentTrackingPort F R) :
    (p.sendDelayRequest env).Ensures fun r => r.1.servo = p.servo :=
  Act.ensures_bind (DomainPort.sendEvent_safe env p.port _).ensures fun _ _ => Act.ensures_pure rfl

omit [F64 F] in
theorem MasterPort.sendAnnounce_safe (p : MasterPort F R) :
    (p.sendAnnounce env).Safe := by
  refine Act.safe_bind (DomainPort.sendGeneral_safe env p.port _) fun result _ _ => ?_
  cases result with
  | ok u => exact Act.safe_pure _
  | error e => exact Act.safe_pure _

omit [F64 F] in
theorem MasterPort.sendSync_safe (p : MasterPort F R) : (p.sendSync env).Safe := by
  refine Act.safe_bind (DomainPort.sendEvent_safe env p.port _) fun result _ _ => ?_
  cases result with
  | ok u => exact Act.safe_pure _
  | error e => exact Act.safe_pure _

end Sends

namespace ParentTrackingPort

theorem feedServo_ensures {p : ParentTrackingPort F R} (hp : p.servo.Sound)
    (react : ServoState → Option StateDecision) :
    (p.feedServo react).Ensures fun r => r.1.servo.Sound := by
  obtain ⟨sample, hsample, hbounded⟩ := p.delayMechanism.sample_bounded
  refine Act.ensures_bind (P := fun r => ∀ s ∈ r, s.Bounded)
    (Act.ensures_lift hsample hbounded) ?_
  intro a ha
  cases a with
  | none => exact Act.ensures_pure hp
  | some sample =>
    refine Act.ensures_bind (Act.ensures_emit _) fun _ _ => ?_
    exact Act.ensures_bind (Servo.feed_ensures hp (ha sample rfl)) fun r hr => Act.ensures_pure hr

theorem processOneStepSync_ensures {p : ParentTrackingPort F R} (hp : p.servo.Sound)
    (react : PortIdentity → ServoState → Option StateDecision) (sync : OneStepSyncMessage)
    (source : PortIdentity) (ts : TimeStamp) :
    (p.processOneStepSync react sync source ts).Ensures fun r => r.1.servo.Sound := by
  unfold processOneStepSync
  split_ifs
  · apply feedServo_ensures
    exact hp
  · exact Act.ensures_pure hp

theorem processFollowUp_ensures {p : ParentTrackingPort F R} (hp : p.servo.Sound)
    (react : PortIdentity → ServoState → Option StateDecision) (followUp : FollowUpMessage)
    (source : PortIdentity) :
    (p.processFollowUp react followUp source).Ensures fun r => r.1.servo.Sound := by
  unfold processFollowUp
  split_ifs
  · apply feedServo_ensures
    exact hp
  · exact Act.ensures_pure hp

omit [F64 F] in
theorem processTwoStepSync_servo (p : ParentTrackingPort F R) (sync : TwoStepSyncMessage)
    (source : PortIdentity) (ts : TimeStamp) : (p.processTwoStepSync sync source ts).servo = p.servo := by
  unfold processTwoStepSync
  split_ifs
  · rfl
  · rfl

omit [F64 F] in
theorem processDelayResponse_servo (p : ParentTrackingPort F R) (resp : DelayResponseMessage)
    (source : PortIdentity) : (p.processDelayResponse resp source).servo = p.servo := by
  unfold processDelayResponse
  split_ifs
  · rfl
  · rfl

end ParentTrackingPort

section Dispatch

variable [ForeignClockRecords R]

/-- What a dispatch ensures: it returns and the servo stays sound. -/
def KeepsServo (x : Act (Effect F) (PortState F R × Option StateDecision)) : Prop :=
  x.Ensures fun r => ∀ servo ∈ r.1.servo, servo.Sound

omit [ForeignClockRecords R] in
theorem keepsServo_without {Q : Type} {x : Act (Effect F) Q}
    {f : Q → PortState F R × Option StateDecision} (hx : x.Safe) (hf : ∀ q, (f q).1.servo = none) :
    KeepsServo (do pure (f (← x))) :=
  Act.ensures_bind hx.ensures fun q _ => Act.ensures_pure fun servo h => by
    rw [hf q] at h
    cases h

variable [LawfulForeignClockRecords R]

omit [F64 F] in
theorem ParentTrackingPort.processAnnounce_ensures (env : Env) (p : ParentTrackingPort F R)
    (msg : AnnounceMessage) (source : PortIdentity) (now : Instant) :
    (p.processAnnounce env msg source now).Ensures fun q => q.servo = p.servo :=
  Act.ensures_bind (feedBmca_safe msg p.bmca source now).ensures fun _ _ => Act.ensures_pure rfl

omit [F64 F] [LawfulForeignClockRecords R] in
theorem stateDecisionEvent_wrapped {B Q : Type} [GatedBmca F B R] (b : B) (wrap : B → Q)
    (snapshot : StateDecisionSnapshot) : ∃ b' d, (do
      let (b, decision) ← stateDecisionEvent F b snapshot
      pure (wrap b, decision) : Checked (Q × Option StateDecision)) = .ok (wrap b', d) := by
  obtain ⟨e, decision, -, -, h⟩ := stateDecisionEvent_eq (F := F) b snapshot
  rw [h]
  exact ⟨_, _, rfl⟩

/-- The common handler of a slave and an uncalibrated port returns and keeps the servo sound. -/
theorem ParentTrackingPort.handle_ensures {p : ParentTrackingPort F R} (hp : p.servo.Sound)
    (react : PortIdentity → ServoState → Option StateDecision) (env : Env) (input : PortInput) :
    (p.handle react env input).Ensures fun r => r.1.servo.Sound := by
  have kept : ∀ {q : ParentTrackingPort F R} (d : Option StateDecision), q.servo = p.servo →
      (pure (q, d) : Act (Effect F) _).Ensures fun r => r.1.servo.Sound := by
    intro q d hq
    refine Act.ensures_pure ?_
    rw [hq]
    exact hp
  cases input with
  | event source msg ts =>
    cases msg with
    | delayReq req => exact kept _ rfl
    | oneStepSync sync => exact processOneStepSync_ensures hp react sync source ts
    | twoStepSync sync => exact kept _ (p.processTwoStepSync_servo sync source ts)
  | general source msg now =>
    cases msg with
    | announce msg =>
      exact Act.ensures_bind (p.processAnnounce_ensures env msg source now) fun _ hq => kept _ hq
    | followUp followUp => exact processFollowUp_ensures hp react followUp source
    | delayResp resp => exact kept _ (p.processDelayResponse_servo resp source)
  | system msg =>
    cases msg
    case stateDecisionEvent snapshot =>
      obtain ⟨bmca, d, h⟩ := stateDecisionEvent_wrapped (F := F) p.bmca
        (fun bmca => ({ p with bmca } : ParentTrackingPort F R)) snapshot
      exact Act.ensures_lift h hp
    case delayRequestTimeout =>
      exact Act.ensures_bind (p.sendDelayRequest_ensures env) fun _ hr => kept _ hr
    case timestamp msg =>
      obtain ⟨eventMsg, egress⟩ := msg
      cases eventMsg with
      | delayReq req => exact kept _ rfl
      | oneStepSync sync => exact kept _ rfl
      | twoStepSync sync => exact kept _ rfl
    all_goals exact kept _ rfl

theorem TrackingRole.keepsServo {k : TrackingRole} {p : ParentTrackingPort F R}
    (hs : (k.state p).Sound) (env : Env) (input : PortInput) :
    KeepsServo ((k.state p).dispatch env input) := by
  have hp : p.servo.Sound := hs.servo p.servo (by cases k <;> rfl)
  rw [k.dispatch_state]
  refine Act.ensures_bind (ParentTrackingPort.handle_ensures hp k.react env input) fun r hr => ?_
  refine Act.ensures_pure fun servo h => ?_
  have hservo : (k.state r.1).servo = some r.1.servo := by cases k <;> rfl
  rw [hservo] at h
  cases h
  exact hr

theorem dispatchEvent_ensures {s : PortState F R} (hs : s.Sound) (env : Env) (msg : EventMessage)
    (source : PortIdentity) (ts : TimeStamp) : KeepsServo (s.dispatchEvent env msg source ts) := by
  have ignored : KeepsServo (pure (s, none)) := Act.ensures_pure hs.servo
  cases s with
  | initializing p => exact ignored
  | listening p => exact ignored
  | preMaster p => exact ignored
  | passive p => exact ignored
  | faulty p => exact ignored
  | master p =>
    cases msg with
    | oneStepSync sync => exact ignored
    | twoStepSync sync => exact ignored
    | delayReq req =>
      exact keepsServo_without (DomainPort.sendGeneral_safe env p.port _) fun _ => rfl
  | slave p => exact TrackingRole.keepsServo (k := .slave) hs env (.event source msg ts)
  | uncalibrated p => exact TrackingRole.keepsServo (k := .uncalibrated) hs env (.event source msg ts)

theorem dispatchGeneral_ensures {s : PortState F R} (hs : s.Sound) (env : Env) (msg : GeneralMessage)
    (source : PortIdentity) (now : Instant) : KeepsServo (s.dispatchGeneral env msg source now) := by
  have ignored : KeepsServo (pure (s, none)) := Act.ensures_pure hs.servo
  -- An Announce of a state without a servo.
  have announce : ∀ {B Q : Type} [GatedBmca F B R] (b : B) (msg : AnnounceMessage) (wrap : B → Q),
      (do pure (wrap (← msg.feedBmca b source now)) : Act (Effect F) Q).Safe :=
    fun b msg wrap => Act.safe_bind (feedBmca_safe msg b source now) fun _ _ _ => Act.safe_pure _
  cases s with
  | initializing p => exact ignored
  | faulty p => exact ignored
  | listening p =>
    cases msg with
    | announce msg => exact keepsServo_without (announce p.bmca msg _) fun _ => rfl
    | followUp msg => exact ignored
    | delayResp msg => exact ignored
  | master p =>
    cases msg with
    | announce msg => exact keepsServo_without (announce p.bmca msg _) fun _ => rfl
    | followUp msg => exact ignored
    | delayResp msg => exact ignored
  | preMaster p =>
    cases msg with
    | announce msg => exact keepsServo_without (announce p.bmca msg _) fun _ => rfl
    | followUp msg => exact ignored
    | delayResp msg => exact ignored
  | passive p =>
    cases msg with
    | announce msg => exact keepsServo_without (announce p.bmca msg _) fun _ => rfl
    | followUp msg => exact ignored
    | delayResp msg => exact ignored
  | slave p => exact TrackingRole.keepsServo (k := .slave) hs env (.general source msg now)
  | uncalibrated p => exact TrackingRole.keepsServo (k := .uncalibrated) hs env (.general source msg now)

omit [F64 F] [ForeignClockRecords R] [LawfulForeignClockRecords R] in
theorem servo_remember (d0 : ClockDS) (s : PortState F R) : (s.remember d0).servo = s.servo := by
  cases s <;> rfl

theorem dispatchSystem_ensures {s : PortState F R} (hs : s.Sound) (env : Env) (msg : SystemMessage) :
    KeepsServo (s.dispatchSystem env msg) := by
  have unchanged : ∀ d, KeepsServo (pure (s, d)) := fun d => Act.ensures_pure hs.servo
  have decided : ∀ snapshot, KeepsServo (s.dispatchSystem env (.stateDecisionEvent snapshot)) := by
    intro snapshot
    obtain ⟨eRbest, decision, -, hd⟩ := dispatch_decision env s snapshot
    refine ⟨_, _, hd, fun servo hservo => ?_⟩
    rw [servo_remember] at hservo
    exact hs.servo servo hservo
  cases s with
  | initializing p =>
    cases msg
    all_goals exact unchanged _
  | faulty p =>
    cases msg
    all_goals exact unchanged _
  | listening p =>
    cases msg
    case stateDecisionEvent snapshot => exact decided snapshot
    all_goals exact unchanged _
  | passive p =>
    cases msg
    case stateDecisionEvent snapshot => exact decided snapshot
    all_goals exact unchanged _
  | preMaster p =>
    cases msg
    case stateDecisionEvent snapshot => exact decided snapshot
    all_goals exact unchanged _
  | master p =>
    cases msg
    case stateDecisionEvent snapshot => exact decided snapshot
    case announceSendTimeout => exact keepsServo_without (p.sendAnnounce_safe env) fun _ => rfl
    case syncTimeout => exact keepsServo_without (p.sendSync_safe env) fun _ => rfl
    case timestamp msg =>
      obtain ⟨eventMsg, egress⟩ := msg
      cases eventMsg with
      | twoStepSync sync =>
        exact keepsServo_without (DomainPort.sendGeneral_safe env p.port _) fun _ => rfl
      | delayReq req => exact unchanged _
      | oneStepSync sync => exact unchanged _
    all_goals exact unchanged _
  | slave p => exact TrackingRole.keepsServo (k := .slave) hs env (.system msg)
  | uncalibrated p => exact TrackingRole.keepsServo (k := .uncalibrated) hs env (.system msg)

theorem dispatch_ensures {s : PortState F R} (hs : s.Sound) (env : Env) (input : PortInput) :
    (s.dispatch env input).Ensures fun r => r.1.Sound := by
  have hservo : KeepsServo (s.dispatch env input) := by
    cases input with
    | event source msg ts => exact dispatchEvent_ensures hs env msg source ts
    | general source msg now => exact dispatchGeneral_ensures hs env msg source now
    | system msg => exact dispatchSystem_ensures hs env msg
  obtain ⟨⟨s', d⟩, l, hreturns, hsound⟩ := hservo
  refine ⟨(s', d), l, hreturns, ?_, hsound⟩
  have hprofile := congrArg PortFrame.profile (dispatch_returns hreturns).frame
  change s'.handover.profile = s.handover.profile at hprofile
  rw [hprofile]
  exact hs.profile

omit [LawfulForeignClockRecords R] in
theorem apply_sound {env : Env} {s s' : PortState F R} {d : StateDecision} {l : List (Effect F)}
    (hs : s.Sound) (h : (s.apply env d).Returns s' l) : s'.Sound := by
  obtain ⟨r, -, hm⟩ := apply_returns h
  have hprofile : s'.handover.profile = s.handover.profile := congrArg PortFrame.profile hm.frame
  refine ⟨by rw [hprofile]; exact hs.profile, fun servo hservo => ?_⟩
  obtain ⟨p', hp', rfl⟩ := Option.map_eq_some_iff.mp hservo
  rcases apply_tracking h hp' with ⟨-, hnew, -⟩ | ⟨p, hp, -, hkept, -⟩
  · rw [hnew]
    exact hs.profile.servo
  · rw [hkept]
    exact hs.servo p.servo (Option.map_eq_some_iff.mpr ⟨p, hp, rfl⟩)

theorem step_sound {env : Env} {s s' : PortState F R} {input : PortInput} {l : List (Effect F)}
    (hs : s.Sound) (h : (s.step env input).Returns s' l) : s'.Sound := by
  rw [PortState.step, Act.returns_bind] at h
  obtain ⟨⟨s₁, d⟩, l₁, l₂, hd, h, -⟩ := h
  have hs₁ : s₁.Sound := (dispatch_ensures hs env input).of_returns hd
  cases d with
  | none =>
    obtain ⟨rfl, -⟩ := Act.returns_pure.mp h
    exact hs₁
  | some decision => exact apply_sound hs₁ h

/-- A sound port answers everything but the receipt timeout of a master. -/
theorem step_safe {s : PortState F R} (hs : s.Sound) (env : Env) {input : PortInput}
    (hin : input ≠ .system .announceReceiptTimeout) : (s.step env input).Safe := by
  refine Act.safe_bind (?_ : (s.dispatch env input).Safe) ?_
  · obtain ⟨a, l, h, -⟩ := dispatch_ensures hs env input
    exact ⟨a, l, h⟩
  · rintro ⟨s₁, d⟩ l h
    have hdispatched := dispatch_returns h
    cases d with
    | none => exact Act.safe_pure _
    | some decision =>
      refine apply_safe_iff.mpr ?_
      rw [hdispatched.role]
      rcases hdispatched.answer.legal s₁.parts.bmca.d0 with hlegal | ⟨htimeout, -⟩
      · exact hlegal
      · exact absurd htimeout hin

end Dispatch

end Rptp
