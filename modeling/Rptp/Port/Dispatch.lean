import Rptp.Port.Decision
import Rptp.Port.Tracking

/-! # What a message makes a port do

`dispatch` keeps the role and the frame of a port, calls only what the role performs, and answers
with a decision only as `Answer` lists. A whole step, `process`, is such an answer followed by a
move along the transition table.
-/

namespace Rptp

open Machine

variable {F R : Type}

section Answer

variable [ForeignClockRecords R]

/-- The decisions that a port in state `s` can answer an input with, after the calls `l`. -/
inductive Answer (s : PortState F R) : PortInput → List (Effect F) → Option StateDecision → Prop
  | quiet {input l} (h : ¬ input.IsDecision) : Answer s input l none
  | decided {snapshot eRbest decision} (hsnap : s.parts.bestForeign.snapshot = .ok eRbest)
      (heval : BestMasterClockAlgorithm.evaluate s.parts.bmca.portNumber snapshot.d0 snapshot.eBest
        eRbest = .ok decision) :
      Answer s (.system (.stateDecisionEvent snapshot)) []
        ((s.role.gate eRbest decision).map BmcaDecision.toStateDecision)
  | expired (h : (∃ ds, s.role = .master ds) ∨
        (s.role.next s.parts.bmca.d0 .announceReceiptTimeoutExpired).isSome) :
      Answer s (.system .announceReceiptTimeout) [] (some .announceReceiptTimeoutExpired)
  | initialized (h : s.role = .initializing) :
      Answer s (.system .initialized) [] (some .initialized)
  | qualified {ds} (h : s.role = .preMaster ds) :
      Answer s (.system .qualificationTimeout) [] (some .qualificationTimeoutExpired)
  | faultCleared (h : s.role = .faulty) : Answer s (.system .faultCleared) [] (some .faultCleared)
  | sendFailed {input l e} (h : ¬ input.IsDecision) (hrole : ¬ s.role.Idle) (he : e ∈ l)
      (hfailed : e.FailedSend) : Answer s input l (some .faultDetected)
  | locked {input l parent} (h : ¬ input.IsDecision) (hrole : s.role = .uncalibrated parent) :
      Answer s input l (some (.masterClockSelected parent))
  | unlocked {input l parent} (h : ¬ input.IsDecision) (hrole : s.role = .slave parent) :
      Answer s input l (some .synchronizationFault)

/-- The result of a dispatch. -/
structure Dispatched (s : PortState F R) (input : PortInput) (s' : PortState F R)
    (d : Option StateDecision) (l : List (Effect F)) : Prop where
  role : s'.role = s.role
  frame : s'.frame = s.frame
  records : ¬ input.IsAnnounce → s'.parts.bestForeign = s.parts.bestForeign
  answer : Answer s input l d

theorem Dispatched.unchanged {s : PortState F R} {input : PortInput} (h : ¬ input.IsDecision)
    (l : List (Effect F)) : Dispatched s input s none l :=
  ⟨rfl, rfl, fun _ => rfl, .quiet h⟩

theorem dispatched_ignored {s s' : PortState F R} {input : PortInput} {d : Option StateDecision}
    {l : List (Effect F)} (hin : ¬ input.IsDecision)
    (h : (pure (s, none) : Act (Effect F) _).Returns (s', d) l) : Dispatched s input s' d l := by
  obtain ⟨h, rfl⟩ := Act.returns_pure.mp h
  cases h
  exact .unchanged hin []

end Answer

section Sends

/-- A send is refused exactly when the environment says so, and then the log shows it. -/
theorem DomainPort.sendEvent_returns {env : Env} {port : DomainPort} {msg : EventMessage}
    {result : SendResult} {l : List (Effect F)} (h : (port.sendEvent env msg).Returns result l) :
    result = env.sendResult ∧
      Effect.sendEvent msg (msg.toWire (.new port.domainNumber port.portIdentity)) result ∈ l := by
  rw [sendEvent, Act.returns_emit_bind] at h
  obtain ⟨l', h, rfl⟩ := h
  cases hsend : env.sendResult with
  | ok u =>
    simp only [hsend] at h
    obtain ⟨l'', hret, -⟩ := Act.returns_emit_bind.mp h
    rw [(Act.returns_pure.mp hret).1]
    exact ⟨rfl, List.mem_cons_self⟩
  | error e =>
    simp only [hsend] at h
    rw [(Act.returns_pure.mp h).1]
    exact ⟨rfl, List.mem_cons_self⟩

theorem DomainPort.sendGeneral_returns {env : Env} {port : DomainPort} {msg : GeneralMessage}
    {result : SendResult} {l : List (Effect F)} (h : (port.sendGeneral env msg).Returns result l) :
    result = env.sendResult ∧
      l = [.sendGeneral msg (msg.toWire (.new port.domainNumber port.portIdentity)) result] := by
  rw [sendGeneral, Act.returns_emit_bind] at h
  obtain ⟨l', h, rfl⟩ := h
  obtain ⟨rfl, rfl⟩ := Act.returns_pure.mp h
  exact ⟨rfl, rfl⟩

theorem DomainPort.sendEvent_only {P : Effect F → Prop} (env : Env) (port : DomainPort)
    (msg : EventMessage) (hsend : ∀ buf result, P (.sendEvent msg buf result))
    (hstamp : P (.stampEgress msg)) : (port.sendEvent env msg).Only P := by
  refine Act.only_bind (Act.only_emit (hsend _ _)) fun _ => ?_
  cases env.sendResult with
  | ok u => exact Act.only_bind (Act.only_emit hstamp) fun _ => Act.only_pure _
  | error e => exact Act.only_pure _

theorem DomainPort.sendGeneral_only {P : Effect F → Prop} (env : Env) (port : DomainPort)
    (msg : GeneralMessage) (hsend : ∀ buf result, P (.sendGeneral msg buf result)) :
    (port.sendGeneral env msg).Only P :=
  Act.only_bind (Act.only_emit (hsend _ _)) fun _ => Act.only_pure _

theorem MasterPort.sendAnnounce_returns {env : Env} {p p' : MasterPort F R} {result : SendResult}
    {l : List (Effect F)} (h : (p.sendAnnounce env).Returns (p', result) l) :
    (∃ announceCycle, p' = { p with announceCycle }) ∧
      ∀ e, result = .error e → ∃ x ∈ l, x.FailedSend := by
  obtain ⟨sent, l₁, l₂, hsend, hret, rfl⟩ := Act.returns_bind.mp h
  obtain ⟨-, rfl⟩ := DomainPort.sendGeneral_returns hsend
  cases sent with
  | ok u =>
    obtain ⟨hret, rfl⟩ := Act.returns_pure.mp hret
    cases hret
    exact ⟨⟨_, rfl⟩, fun e he => by cases he⟩
  | error e =>
    obtain ⟨hret, rfl⟩ := Act.returns_pure.mp hret
    cases hret
    exact ⟨⟨_, rfl⟩, fun e _ => ⟨_, List.mem_cons_self, trivial⟩⟩

theorem MasterPort.sendSync_returns {env : Env} {p p' : MasterPort F R} {result : SendResult}
    {l : List (Effect F)} (h : (p.sendSync env).Returns (p', result) l) :
    (∃ syncCycle, p' = { p with syncCycle }) ∧
      ∀ e, result = .error e → ∃ x ∈ l, x.FailedSend := by
  obtain ⟨sent, l₁, l₂, hsend, hret, rfl⟩ := Act.returns_bind.mp h
  obtain ⟨-, hmem⟩ := DomainPort.sendEvent_returns hsend
  cases sent with
  | ok u =>
    obtain ⟨hret, rfl⟩ := Act.returns_pure.mp hret
    cases hret
    exact ⟨⟨_, rfl⟩, fun e he => by cases he⟩
  | error e =>
    obtain ⟨hret, rfl⟩ := Act.returns_pure.mp hret
    cases hret
    exact ⟨⟨_, rfl⟩, fun e _ => ⟨_, List.mem_append_left _ hmem, trivial⟩⟩

variable [ForeignClockRecords R]

theorem answer_send {s : PortState F R} {input : PortInput} {result : SendResult}
    {l : List (Effect F)} (h : ¬ input.IsDecision) (hrole : ¬ s.role.Idle)
    (hlog : ∀ e, result = .error e → ∃ x ∈ l, x.FailedSend) :
    Answer s input l (PortState.sendDecision result) := by
  cases result with
  | ok u => exact .quiet h
  | error e =>
    obtain ⟨x, hx, hf⟩ := hlog e rfl
    exact .sendFailed h hrole hx hf

end Sends

section Tracking

variable [F64 F]

namespace ParentTrackingPort

/-- A sample only changes the servo, and the decision is the reaction to the servo's answer. -/
theorem feedServo_returns {react : ServoState → Option StateDecision}
    {p p' : ParentTrackingPort F R} {d : Option StateDecision} {l : List (Effect F)}
    (h : (p.feedServo react).Returns (p', d) l) :
    (∃ servo, p' = { p with servo := servo }) ∧ (d = none ∨ ∃ state, d = react state) := by
  rw [feedServo, Act.returns_lift_bind] at h
  obtain ⟨sample, -, h⟩ := h
  cases sample with
  | none =>
    obtain ⟨h, rfl⟩ := Act.returns_pure.mp h
    cases h
    exact ⟨⟨p.servo, rfl⟩, .inl rfl⟩
  | some sample =>
    obtain ⟨l', hfeed, -⟩ := Act.returns_emit_bind.mp h
    obtain ⟨a, -, ha⟩ := Act.returns_bind_pure.mp hfeed
    cases ha
    exact ⟨⟨a.1, rfl⟩, .inr ⟨a.2, rfl⟩⟩

theorem feedServo_only (react : ServoState → Option StateDecision) (p : ParentTrackingPort F R) :
    (p.feedServo react).Only Effect.OnClock := by
  refine Act.only_bind (Act.only_lift _) fun sample => ?_
  cases sample with
  | none => exact Act.only_pure _
  | some sample =>
    refine Act.only_bind (Act.only_emit trivial) fun _ => ?_
    exact Act.only_bind ((p.servo.feed_only sample).mono Effect.ByServo.onClock)
      fun _ => Act.only_pure _

end ParentTrackingPort

end Tracking

section Reactions

variable [ForeignClockRecords R]

theorem answer_slave {p : SlavePort F R} {input : PortInput} {source : PortIdentity}
    {d : Option StateDecision} {l : List (Effect F)} (h : ¬ input.IsDecision)
    (hd : d = none ∨ p.bmca.parentPortIdentity = ⟨source⟩ ∧
      ∃ state, d = SlavePort.react source state) : Answer (.slave p) input l d := by
  rcases hd with rfl | ⟨-, state, rfl⟩
  · exact .quiet h
  · cases state with
    | locked => exact .quiet h
    | unlocked => exact .unlocked h rfl
    | calibrating => exact .unlocked h rfl

theorem answer_uncalibrated {p : UncalibratedPort F R} {input : PortInput} {source : PortIdentity}
    {d : Option StateDecision} {l : List (Effect F)} (h : ¬ input.IsDecision)
    (hd : d = none ∨ p.bmca.parentPortIdentity = ⟨source⟩ ∧
      ∃ state, d = UncalibratedPort.react source state) : Answer (.uncalibrated p) input l d := by
  rcases hd with rfl | ⟨hparent, state, rfl⟩
  · exact .quiet h
  · cases state with
    | locked =>
      rw [UncalibratedPort.react, ← hparent]
      exact .locked h rfl
    | unlocked => exact .quiet h
    | calibrating => exact .quiet h

end Reactions

section Roles

variable [ForeignClockRecords R]

theorem dispatched_announce {B : Type} [GatedBmca F B R] {s s' : PortState F R}
    {msg : AnnounceMessage} {b : B} {mk : B → PortState F R} {source : PortIdentity}
    {now : Instant} {d : Option StateDecision} {l : List (Effect F)}
    (hparts : GatedBmca.parts F b = s.parts)
    (hrole : ∀ p, (mk (GatedBmca.withParts F b p)).role = s.role)
    (hframe : ∀ p, (mk (GatedBmca.withParts F b p)).frame =
      ⟨p.frame, s.handover.port, s.handover.profile⟩)
    (h : (do
      let b ← msg.feedBmca b source now
      pure (mk b, none) : Act (Effect F) _).Returns (s', d) l) :
    Dispatched s (.general source (.announce msg) now) s' d l := by
  obtain ⟨b', hb, hret⟩ := Act.returns_bind_pure.mp h
  cases hret
  obtain ⟨p, rfl, -, hp, -⟩ := feedBmca_returns hb
  refine ⟨hrole p, ?_, fun h => absurd trivial h, .quiet id⟩
  rw [hframe, hp, hparts]
  rfl

theorem feedBmca_only {B : Type} [GatedBmca F B R] {frame : PartsFrame} {r : Role} (b : B)
    (hframe : (GatedBmca.parts F b).frame = frame) (hrole : ¬ r.Idle) (msg : AnnounceMessage)
    (source : PortIdentity) (now : Instant) :
    (msg.feedBmca b source now : Act (Effect F) B).Only (r.Performs frame) := by
  intro b' l h e he
  obtain ⟨-, -, -, -, hreports, htriggers⟩ := feedBmca_returns h
  obtain ⟨port, snapshot, rfl⟩ := htriggers e he
  obtain ⟨hport, hreceiver⟩ := hreports port snapshot he
  rw [hframe] at hport hreceiver
  exact ⟨hrole, hport, hreceiver⟩

end Roles

section Dispatch

variable [F64 F] [ForeignClockRecords R]

theorem dispatched_decision (env : Env) {s s' : PortState F R} {snapshot : StateDecisionSnapshot}
    {d : Option StateDecision} {l : List (Effect F)}
    (h : (s.dispatch env (.system (.stateDecisionEvent snapshot))).Returns (s', d) l) :
    Dispatched s (.system (.stateDecisionEvent snapshot)) s' d l := by
  obtain ⟨eRbest, decision, hdecides, hd⟩ := dispatch_decision env s snapshot
  obtain ⟨heq, rfl⟩ := h.unique hd
  cases heq
  exact ⟨s.role_remember _, s.frame_remember _, fun _ => s.bestForeign_remember _,
    .decided hdecides.records hdecides.evaluated⟩

namespace TrackingRole

variable {k : TrackingRole} {p p' : ParentTrackingPort F R} {input : PortInput}
  {d : Option StateDecision} {l : List (Effect F)}

omit [F64 F] in
theorem answer_react {source : PortIdentity} (h : ¬ input.IsDecision)
    (hd : d = none ∨ p.bmca.parentPortIdentity = ⟨source⟩ ∧ ∃ state, d = k.react source state) :
    Answer (k.state p) input l d := by
  cases k with
  | slave => exact answer_slave h hd
  | uncalibrated => exact answer_uncalibrated h hd

omit [F64 F] in
/-- The exchanges and the servo are no part of what a dispatch keeps. -/
theorem dispatched_of_answer (p : ParentTrackingPort F R) (m : EndToEndDelayMechanism)
    (servo : Servo F) (h : Answer (k.state p) input l d) :
    Dispatched (k.state p) input (k.state { p with delayMechanism := m, servo := servo }) d l := by
  cases k <;> exact ⟨rfl, rfl, fun _ => rfl, h⟩

/-- The common handler is a dispatch of either state. -/
theorem handle_returns {env : Env} (h : (p.handle k.react env input).Returns (p', d) l) :
    Dispatched (k.state p) input (k.state p') d l := by
  cases ParentTrackingPort.handle_cases h with
  | recorded hin => exact dispatched_of_answer p _ p.servo (.quiet hin)
  | sampled hin hparent hfed =>
    obtain ⟨⟨servo, rfl⟩, hd⟩ := ParentTrackingPort.feedServo_returns hfed
    have hreact := hd.imp id fun hd => And.intro hparent hd
    exact dispatched_of_answer p _ servo (answer_react hin.not_isDecision hreact)
  | @announced source msg now bmca _ hfed =>
    let armed := { p with announceReceiptTimeout := p.announceReceiptTimeout.restart env }
    have hfed' : (do
        let bmca ← msg.feedBmca p.bmca source now
        pure (k.state { armed with bmca }, none) :
          Act (Effect F) (PortState F R × Option StateDecision)).Returns
          (k.state { armed with bmca }, none) l :=
      Act.returns_bind_pure.mpr ⟨bmca, hfed, rfl⟩
    exact dispatched_announce (by cases k <;> rfl) (fun _ => by cases k <;> rfl)
      (fun _ => by cases k <;> rfl) hfed'
  | requested hsent =>
    obtain ⟨-, hmem⟩ := DomainPort.sendEvent_returns hsent
    refine dispatched_of_answer p _ p.servo (answer_send id (by cases k <;> exact id) ?_)
    rintro e rfl
    exact ⟨_, hmem, trivial⟩
  | expired => exact ⟨rfl, rfl, fun _ => rfl, .expired (.inr (by cases k <;> rfl))⟩
  | decided =>
    apply dispatched_decision env
    rw [k.dispatch_state]
    exact Act.returns_bind_pure.mpr ⟨_, h, rfl⟩

theorem dispatched (k : TrackingRole) (env : Env) {s' : PortState F R}
    (h : ((k.state p).dispatch env input).Returns (s', d) l) :
    Dispatched (k.state p) input s' d l := by
  obtain ⟨q, rfl, hq⟩ := dispatch_returns h
  exact handle_returns hq

theorem dispatch_only (k : TrackingRole) (env : Env) (p : ParentTrackingPort F R)
    (input : PortInput) :
    ((k.state p).dispatch env input).Only ((k.state p).role.Performs (k.state p).parts.frame) := by
  rintro ⟨s', d⟩ l h
  obtain ⟨p', -, hp'⟩ := dispatch_returns h
  cases ParentTrackingPort.handle_cases hp' with
  | recorded => simp
  | sampled _ _ hfed =>
    intro e he
    have honClock := ParentTrackingPort.feedServo_only _ _ _ l hfed e he
    exact Role.performs_onClock _ (k.tracks_state p) honClock
  | announced hfed =>
    exact feedBmca_only p.bmca (by cases k <;> rfl) (by cases k <;> exact id) _ _ _ _ l hfed
  | requested hsent =>
    exact DomainPort.sendEvent_only env p.port _ (fun _ _ => ⟨_, k.tracks_state p⟩)
      ⟨_, k.tracks_state p⟩ _ l hsent
  | expired => simp
  | decided => simp

end TrackingRole

theorem dispatchEvent_returns {env : Env} {s s' : PortState F R} {msg : EventMessage}
    {source : PortIdentity} {ts : TimeStamp} {d : Option StateDecision} {l : List (Effect F)}
    (h : (s.dispatchEvent env msg source ts).Returns (s', d) l) :
    Dispatched s (.event source msg ts) s' d l := by
  have hin : ¬ (PortInput.event source msg ts).IsDecision := id
  cases s with
  | initializing p => cases msg <;> exact dispatched_ignored hin h
  | listening p => cases msg <;> exact dispatched_ignored hin h
  | preMaster p => cases msg <;> exact dispatched_ignored hin h
  | passive p => cases msg <;> exact dispatched_ignored hin h
  | faulty p => cases msg <;> exact dispatched_ignored hin h
  | master p =>
    cases msg with
    | delayReq req =>
      obtain ⟨result, hsend, hret⟩ := Act.returns_bind_pure.mp h
      cases hret
      obtain ⟨-, rfl⟩ := DomainPort.sendGeneral_returns hsend
      refine ⟨rfl, rfl, fun _ => rfl, answer_send hin id ?_⟩
      rintro e rfl
      exact ⟨_, List.mem_singleton_self _, trivial⟩
    | oneStepSync msg => exact dispatched_ignored hin h
    | twoStepSync msg => exact dispatched_ignored hin h
  | slave p => exact TrackingRole.dispatched .slave env h
  | uncalibrated p => exact TrackingRole.dispatched .uncalibrated env h

theorem dispatchGeneral_returns {env : Env} {s s' : PortState F R} {msg : GeneralMessage}
    {source : PortIdentity} {now : Instant} {d : Option StateDecision} {l : List (Effect F)}
    (h : (s.dispatchGeneral env msg source now).Returns (s', d) l) :
    Dispatched s (.general source msg now) s' d l := by
  have hin : ¬ (PortInput.general source msg now).IsDecision := id
  cases s with
  | initializing p => cases msg <;> exact dispatched_ignored hin h
  | faulty p => cases msg <;> exact dispatched_ignored hin h
  | listening p =>
    cases msg with
    | announce msg =>
      simp only [PortState.dispatchGeneral, ListeningPort.processAnnounce, bind_assoc,
        pure_bind] at h
      exact dispatched_announce rfl (fun _ => rfl) (fun _ => rfl) h
    | delayResp msg => exact dispatched_ignored hin h
    | followUp msg => exact dispatched_ignored hin h
  | master p =>
    cases msg with
    | announce msg =>
      simp only [PortState.dispatchGeneral, MasterPort.processAnnounce, bind_assoc, pure_bind] at h
      exact dispatched_announce rfl (fun _ => rfl) (fun _ => rfl) h
    | delayResp msg => exact dispatched_ignored hin h
    | followUp msg => exact dispatched_ignored hin h
  | preMaster p =>
    cases msg with
    | announce msg =>
      simp only [PortState.dispatchGeneral, PreMasterPort.processAnnounce, bind_assoc,
        pure_bind] at h
      exact dispatched_announce rfl (fun _ => rfl) (fun _ => rfl) h
    | delayResp msg => exact dispatched_ignored hin h
    | followUp msg => exact dispatched_ignored hin h
  | passive p =>
    cases msg with
    | announce msg =>
      simp only [PortState.dispatchGeneral, PassivePort.processAnnounce, bind_assoc, pure_bind] at h
      exact dispatched_announce rfl (fun _ => rfl) (fun _ => rfl) h
    | delayResp msg => exact dispatched_ignored hin h
    | followUp msg => exact dispatched_ignored hin h
  | slave p => exact TrackingRole.dispatched .slave env h
  | uncalibrated p => exact TrackingRole.dispatched .uncalibrated env h

theorem dispatchSystem_returns {env : Env} {s s' : PortState F R} {msg : SystemMessage}
    {d : Option StateDecision} {l : List (Effect F)}
    (h : (s.dispatchSystem env msg).Returns (s', d) l) : Dispatched s (.system msg) s' d l := by
  have expired : ∀ {s : PortState F R}, ((∃ ds, s.role = .master ds) ∨
      (s.role.next s.parts.bmca.d0 .announceReceiptTimeoutExpired).isSome) →
      (pure (s, some StateDecision.announceReceiptTimeoutExpired) :
        Act (Effect F) _).Returns (s', d) l →
      Dispatched s (.system .announceReceiptTimeout) s' d l := by
    intro s hrole h
    obtain ⟨hret, rfl⟩ := Act.returns_pure.mp h
    cases hret
    exact ⟨rfl, rfl, fun _ => rfl, .expired hrole⟩
  cases s with
  | initializing p =>
    cases msg
    case initialized =>
      obtain ⟨hret, rfl⟩ := Act.returns_pure.mp h
      cases hret
      exact ⟨rfl, rfl, fun _ => rfl, .initialized rfl⟩
    case stateDecisionEvent snapshot => exact dispatched_decision env h
    all_goals exact dispatched_ignored id h
  | faulty p =>
    cases msg
    case faultCleared =>
      obtain ⟨hret, rfl⟩ := Act.returns_pure.mp h
      cases hret
      exact ⟨rfl, rfl, fun _ => rfl, .faultCleared rfl⟩
    case stateDecisionEvent snapshot => exact dispatched_decision env h
    all_goals exact dispatched_ignored id h
  | listening p =>
    cases msg
    case announceReceiptTimeout => exact expired (.inr rfl) h
    case stateDecisionEvent snapshot => exact dispatched_decision env h
    all_goals exact dispatched_ignored id h
  | passive p =>
    cases msg
    case announceReceiptTimeout => exact expired (.inr rfl) h
    case stateDecisionEvent snapshot => exact dispatched_decision env h
    all_goals exact dispatched_ignored id h
  | preMaster p =>
    cases msg
    case qualificationTimeout =>
      obtain ⟨hret, rfl⟩ := Act.returns_pure.mp h
      cases hret
      exact ⟨rfl, rfl, fun _ => rfl, .qualified rfl⟩
    case stateDecisionEvent snapshot => exact dispatched_decision env h
    all_goals exact dispatched_ignored id h
  | master p =>
    cases msg
    case announceReceiptTimeout => exact expired (.inl ⟨_, rfl⟩) h
    case stateDecisionEvent snapshot => exact dispatched_decision env h
    case announceSendTimeout =>
      obtain ⟨a, ha, hret⟩ := Act.returns_bind_pure.mp h
      cases hret
      obtain ⟨⟨cycle, hp⟩, hlog⟩ := MasterPort.sendAnnounce_returns ha
      rw [hp]
      exact ⟨rfl, rfl, fun _ => rfl, answer_send id id hlog⟩
    case syncTimeout =>
      obtain ⟨a, ha, hret⟩ := Act.returns_bind_pure.mp h
      cases hret
      obtain ⟨⟨cycle, hp⟩, hlog⟩ := MasterPort.sendSync_returns ha
      rw [hp]
      exact ⟨rfl, rfl, fun _ => rfl, answer_send id id hlog⟩
    case timestamp msg =>
      obtain ⟨eventMsg, egress⟩ := msg
      cases eventMsg with
      | twoStepSync sync =>
        obtain ⟨result, hsend, hret⟩ := Act.returns_bind_pure.mp h
        cases hret
        obtain ⟨-, rfl⟩ := DomainPort.sendGeneral_returns hsend
        refine ⟨rfl, rfl, fun _ => rfl, answer_send id id ?_⟩
        rintro e rfl
        exact ⟨_, List.mem_singleton_self _, trivial⟩
      | delayReq req => exact dispatched_ignored id h
      | oneStepSync sync => exact dispatched_ignored id h
    all_goals exact dispatched_ignored id h
  | slave p => exact TrackingRole.dispatched .slave env h
  | uncalibrated p => exact TrackingRole.dispatched .uncalibrated env h

/-- Every dispatch that returns is listed. -/
theorem dispatch_returns {env : Env} {s s' : PortState F R} {input : PortInput}
    {d : Option StateDecision} {l : List (Effect F)}
    (h : (s.dispatch env input).Returns (s', d) l) : Dispatched s input s' d l := by
  cases input with
  | event source msg ts => exact dispatchEvent_returns h
  | general source msg now => exact dispatchGeneral_returns h
  | system msg => exact dispatchSystem_returns h

/-- A port that tracks a parent after a dispatch has handled the message in the same state. -/
theorem dispatch_tracking {env : Env} {s s' : PortState F R} {input : PortInput}
    {d : Option StateDecision} {l : List (Effect F)} (h : (s.dispatch env input).Returns (s', d) l)
    {p' : ParentTrackingPort F R} (hp : s'.tracking = some p') :
    ∃ (k : TrackingRole) (p : ParentTrackingPort F R), s.tracking = some p ∧
      (p.handle k.react env input).Returns (p', d) l := by
  rcases s.tracking_cases with ⟨k, p, rfl⟩ | huntracked
  · obtain ⟨q, rfl, hq⟩ := TrackingRole.dispatch_returns h
    rw [k.tracking_state] at hp
    cases hp
    exact ⟨k, p, k.tracking_state p, hq⟩
  · rw [PortState.tracking_eq_none (by rw [(dispatch_returns h).role]; exact huntracked)] at hp
    cases hp

theorem dispatchEvent_only (env : Env) (s : PortState F R) (msg : EventMessage)
    (source : PortIdentity) (ts : TimeStamp) :
    (s.dispatchEvent env msg source ts).Only (s.role.Performs s.parts.frame) := by
  cases s with
  | slave p => exact TrackingRole.dispatch_only .slave env p (.event source msg ts)
  | uncalibrated p => exact TrackingRole.dispatch_only .uncalibrated env p (.event source msg ts)
  | master p =>
    cases msg with
    | delayReq req =>
      exact Act.only_bind (DomainPort.sendGeneral_only env p.port _ fun _ _ => ⟨_, rfl⟩)
        fun _ => Act.only_pure _
    | oneStepSync sync => exact Act.only_pure _
    | twoStepSync sync => exact Act.only_pure _
  | initializing p => cases msg <;> exact Act.only_pure _
  | listening p => cases msg <;> exact Act.only_pure _
  | preMaster p => cases msg <;> exact Act.only_pure _
  | passive p => cases msg <;> exact Act.only_pure _
  | faulty p => cases msg <;> exact Act.only_pure _

theorem dispatchGeneral_only (env : Env) (s : PortState F R) (msg : GeneralMessage)
    (source : PortIdentity) (now : Instant) :
    (s.dispatchGeneral env msg source now).Only (s.role.Performs s.parts.frame) := by
  have announced : ∀ {B Q : Type} [GatedBmca F B R] (b : B) (f : B → Q)
      (g : Q → PortState F R × Option StateDecision) {frame : PartsFrame} {r : Role}
      (_ : (GatedBmca.parts F b).frame = frame) (_ : ¬ r.Idle) (msg : AnnounceMessage),
      (do
        let q ← (do
          let b ← msg.feedBmca b source now
          pure (f b))
        pure (g q) : Act (Effect F) _).Only (r.Performs frame) := by
    intro B Q _ b f g frame r hframe hrole msg
    refine Act.only_bind ?_ fun _ => Act.only_pure _
    exact Act.only_bind (feedBmca_only b hframe hrole msg source now) fun _ => Act.only_pure _
  cases msg with
  | announce msg =>
    cases s with
    | initializing p => exact Act.only_pure _
    | faulty p => exact Act.only_pure _
    | listening p => exact announced p.bmca _ _ rfl id msg
    | slave p => exact announced p.bmca _ _ rfl id msg
    | master p => exact announced p.bmca _ _ rfl id msg
    | preMaster p => exact announced p.bmca _ _ rfl id msg
    | uncalibrated p => exact announced p.bmca _ _ rfl id msg
    | passive p => exact announced p.bmca _ _ rfl id msg
  | delayResp resp => cases s <;> exact Act.only_pure _
  | followUp followUp =>
    cases s
    case slave p =>
      exact TrackingRole.dispatch_only .slave env p (.general source (.followUp followUp) now)
    case uncalibrated p =>
      exact TrackingRole.dispatch_only .uncalibrated env p (.general source (.followUp followUp) now)
    all_goals exact Act.only_pure _

theorem dispatchSystem_only (env : Env) (s : PortState F R) (msg : SystemMessage) :
    (s.dispatchSystem env msg).Only (s.role.Performs s.parts.frame) := by
  cases msg with
  | announceSendTimeout =>
    cases s
    case master p =>
      refine Act.only_bind ?_ fun _ => Act.only_pure _
      refine Act.only_bind (DomainPort.sendGeneral_only env p.port _ fun _ _ => rfl) fun r => ?_
      cases r <;> exact Act.only_pure _
    all_goals exact Act.only_pure _
  | syncTimeout =>
    cases s
    case master p =>
      refine Act.only_bind ?_ fun _ => Act.only_pure _
      refine Act.only_bind (DomainPort.sendEvent_only env p.port _ (fun _ _ => ⟨_, rfl⟩)
        ⟨_, rfl⟩) fun r => ?_
      cases r <;> exact Act.only_pure _
    all_goals exact Act.only_pure _
  | delayRequestTimeout =>
    cases s
    case slave p => exact TrackingRole.dispatch_only .slave env p (.system .delayRequestTimeout)
    case uncalibrated p =>
      exact TrackingRole.dispatch_only .uncalibrated env p (.system .delayRequestTimeout)
    all_goals exact Act.only_pure _
  | timestamp msg =>
    obtain ⟨eventMsg, egress⟩ := msg
    cases s
    case master p =>
      cases eventMsg with
      | twoStepSync sync =>
        exact Act.only_bind (DomainPort.sendGeneral_only env p.port _ fun _ _ => ⟨_, rfl⟩)
          fun _ => Act.only_pure _
      | delayReq req => exact Act.only_pure _
      | oneStepSync sync => exact Act.only_pure _
    all_goals cases eventMsg <;> exact Act.only_pure _
  | stateDecisionEvent snapshot =>
    intro r l h e he
    obtain ⟨eRbest, decision, -, hd⟩ := dispatch_decision env s snapshot
    rw [(h.unique hd).2] at he
    cases he
  | initialized => cases s <;> exact Act.only_pure _
  | faultCleared => cases s <;> exact Act.only_pure _
  | announceReceiptTimeout => cases s <;> exact Act.only_pure _
  | qualificationTimeout => cases s <;> exact Act.only_pure _

/-- A dispatch calls only what the role performs. -/
theorem dispatch_only (env : Env) (s : PortState F R) (input : PortInput) :
    (s.dispatch env input).Only (s.role.Performs s.parts.frame) := by
  cases input with
  | event source msg ts => exact dispatchEvent_only env s msg source ts
  | general source msg now => exact dispatchGeneral_only env s msg source now
  | system msg => exact dispatchSystem_only env s msg

end Dispatch

end Rptp
