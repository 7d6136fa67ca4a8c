import Rptp.Port.Provenance

/-! # The delay requests of a port

A port asks for the delay only when its timeout says so, and only while it tracks a parent. Each
request takes the sequence id of the delay cycle and advances it. The cycle stays otherwise as it is
until the port has another parent, and then it starts at 0 again.
-/

namespace Rptp

open Machine

variable {F R : Type}

/-- The sequence ids of the DelayReq messages that were sent. -/
def requests (l : List (Effect F)) : List SequenceId :=
  l.filterMap fun
    | .sendEvent (.delayReq req) _ (.ok _) => some req.sequenceId
    | _ => none

theorem requests_append (l l' : List (Effect F)) : requests (l ++ l') = requests l ++ requests l' :=
  List.filterMap_append

/-- A call that sends no DelayReq. -/
def Effect.NoRequest : Effect F → Prop
  | .sendEvent (.delayReq _) _ _ => False
  | _ => True

theorem Effect.OnClock.noRequest (e : Effect F) (h : e.OnClock) : e.NoRequest := by
  cases e with
  | sendEvent msg buf result => exact absurd h id
  | _ => trivial

theorem requests_eq_nil {l : List (Effect F)} (h : ∀ e ∈ l, e.NoRequest) : requests l = [] := by
  apply List.filterMap_eq_nil_iff.mpr
  intro e he
  have hno := h e he
  cases e with
  | sendEvent msg buf result =>
    cases msg with
    | delayReq req => exact absurd hno id
    | oneStepSync sync => rfl
    | twoStepSync sync => rfl
  | _ => rfl

theorem requests_triggers {l : List (Effect F)}
    (h : ∀ e ∈ l, ∃ port snapshot, e = .trigger port snapshot) : requests l = [] := by
  apply requests_eq_nil
  intro e he
  obtain ⟨port, snapshot, rfl⟩ := h e he
  trivial

/-- What a message does to the delay cycle of a port that tracks a parent. -/
inductive Cycled (p p' : ParentTrackingPort F R) (d : Option StateDecision)
    (l : List (Effect F)) : Prop
  | asked (hnone : d = none) (hl : requests l = [p.delayMechanism.delayCycle.sequenceId])
      (hid : p'.delayMechanism.delayCycle.sequenceId =
        p.delayMechanism.delayCycle.sequenceId.next)
  | refused (hd : d = some .faultDetected) (hl : requests l = [])
  | kept (hl : requests l = []) (hcycle : p'.delayMechanism.delayCycle = p.delayMechanism.delayCycle)

section Handlers

theorem Role.next_faultDetected {r r' : Role} {d0 : ClockDS}
    (h : r.next d0 .faultDetected = some r') : r' = .faulty := by
  cases r <;> cases h <;> rfl

namespace ParentTrackingPort

theorem record_cycle (p : ParentTrackingPort F R) (input : PortInput) :
    (p.record input).delayCycle = p.delayMechanism.delayCycle := by
  unfold record
  split <;> first | rfl | (split_ifs <;> rfl)

theorem sendEvent_cycled {env : Env} {p : ParentTrackingPort F R} {result : SendResult}
    {l : List (Effect F)} (h : (p.port.sendEvent env
      (.delayReq (p.delayMechanism.delayRequest env).2)).Returns result l) :
    Cycled p { p with delayMechanism := (p.delayMechanism.delayRequest env).1 }
      (PortState.sendDecision result) l := by
  rw [DomainPort.sendEvent, Act.returns_emit_bind] at h
  obtain ⟨l', hsent, rfl⟩ := h
  cases hresult : env.sendResult with
  | ok u =>
    simp only [hresult] at hsent
    obtain ⟨l'', hstamp, rfl⟩ := Act.returns_emit_bind.mp hsent
    obtain ⟨rfl, rfl⟩ := Act.returns_pure.mp hstamp
    exact .asked rfl rfl rfl
  | error e =>
    simp only [hresult] at hsent
    obtain ⟨rfl, rfl⟩ := Act.returns_pure.mp hsent
    exact .refused rfl rfl

variable [F64 F] [ForeignClockRecords R]

/-- A message advances the delay cycle of a port that tracks a parent, or it keeps it. -/
theorem handle_cycled {react : PortIdentity → ServoState → Option StateDecision} {env : Env}
    {p p' : ParentTrackingPort F R} {input : PortInput} {d : Option StateDecision}
    {l : List (Effect F)} (h : (p.handle react env input).Returns (p', d) l) :
    Cycled p p' d l := by
  cases handle_cases h with
  | recorded => exact .kept rfl (p.record_cycle input)
  | sampled _ _ hfed =>
    refine .kept (requests_eq_nil fun e he => (feedServo_only _ _ _ l hfed e he).noRequest) ?_
    obtain ⟨⟨servo, rfl⟩, -⟩ := feedServo_returns hfed
    exact p.record_cycle input
  | announced hfed =>
    obtain ⟨-, -, -, -, -, htriggers⟩ := feedBmca_returns hfed
    exact .kept (requests_triggers htriggers) rfl
  | requested hsent => exact sendEvent_cycled hsent
  | expired => exact .kept rfl rfl
  | decided => exact .kept rfl rfl

end ParentTrackingPort

variable [F64 F] [ForeignClockRecords R]

theorem dispatch_cycled {env : Env} {s s' : PortState F R} {p : ParentTrackingPort F R}
    {input : PortInput} {d : Option StateDecision} {l : List (Effect F)}
    (hp : s.tracking = some p) (h : (s.dispatch env input).Returns (s', d) l) :
    ∃ p', s'.tracking = some p' ∧ Cycled p p' d l := by
  obtain ⟨k, p', hp', hhandle⟩ := dispatch_handled hp h
  exact ⟨p', hp', ParentTrackingPort.handle_cycled hhandle⟩

omit [ForeignClockRecords R] [F64 F] in
theorem requests_untracked {s : PortState F R} {l : List (Effect F)} (hs : s.tracking = none)
    (h : ∀ e ∈ l, s.role.Performs s.parts.frame e) : requests l = [] := by
  apply requests_eq_nil
  intro e he
  have hperforms := h e he
  cases e with
  | sendEvent msg buf result =>
    cases msg with
    | delayReq req =>
      obtain ⟨parent, hparent⟩ := hperforms
      cases s
      case slave p | uncalibrated p => cases hs
      all_goals exact absurd hparent id
    | oneStepSync sync => trivial
    | twoStepSync sync => trivial
  | _ => trivial

/-- What a step does to the delay cycle. -/
inductive Requested (s s' : PortState F R) (l : List (Effect F)) : Prop
  | asked {p : ParentTrackingPort F R} (hp : s.tracking = some p)
      (hl : requests l = [p.delayMechanism.delayCycle.sequenceId]) (hparent : s'.parent = s.parent)
      (hid : ∀ p', s'.tracking = some p' → p'.delayMechanism.delayCycle.sequenceId =
        p.delayMechanism.delayCycle.sequenceId.next)
  | quiet (hl : requests l = [])
      (hid : ∀ p', s'.tracking = some p' →
        s'.parent ≠ s.parent ∧ p'.delayMechanism.delayCycle.sequenceId = ⟨0⟩ ∨
        s'.parent = s.parent ∧ ∃ p, s.tracking = some p ∧
          p'.delayMechanism.delayCycle = p.delayMechanism.delayCycle)

/-- A step sends at most one DelayReq, with the next sequence id. -/
theorem step_requested {env : Env} {s s' : PortState F R} {input : PortInput}
    {l : List (Effect F)} (h : (s.step env input).Returns s' l) : Requested s s' l := by
  cases hs : s.tracking with
  | none =>
    refine .quiet (requests_untracked hs fun e he => step_only env s input s' l h e he) ?_
    intro p' hp'
    rcases step_tracking h hp' with ⟨hparent, cycle, hnew, hid⟩ | ⟨-, p, hp, -⟩
    · left
      rw [hnew]
      exact ⟨hparent, hid⟩
    · rw [hs] at hp
      cases hp
  | some p =>
    rw [PortState.step, Act.returns_bind] at h
    obtain ⟨⟨s₁, d⟩, l₁, l₂, hd, hrest, rfl⟩ := h
    have hrole : s₁.parent = s.parent := congrArg Role.parent (dispatch_returns hd).role
    obtain ⟨p₁, hp₁, hcycled⟩ := dispatch_cycled hs hd
    cases d with
    | none =>
      obtain ⟨rfl, rfl⟩ := Act.returns_pure.mp hrest
      rw [List.append_nil]
      cases hcycled with
      | asked _ hl hid =>
        refine .asked hs hl hrole fun p' hp' => ?_
        cases hp₁.symm.trans hp'
        exact hid
      | refused hd => cases hd
      | kept hl hcycle =>
        refine .quiet hl fun p' hp' => .inr ⟨hrole, p, hs, ?_⟩
        cases hp₁.symm.trans hp'
        exact hcycle
    | some d =>
      obtain ⟨r, hnext, hmoved⟩ := apply_returns hrest
      have hl₂ := requests_triggers hmoved.triggers
      cases hcycled with
      | asked hnone => cases hnone
      | refused hd hl =>
        refine .quiet (by rw [requests_append, hl, hl₂, List.append_nil]) fun p' hp' => ?_
        cases hd
        have hfaulty : s'.parent = none := by
          rw [PortState.parent, hmoved.role, Role.next_faultDetected hnext]
          rfl
        rw [PortState.parent_of_tracking hp'] at hfaulty
        cases hfaulty
      | kept hl hcycle =>
        refine .quiet (by rw [requests_append, hl, hl₂, List.append_nil]) fun p' hp' => ?_
        rcases apply_tracking hrest hp' with ⟨rfl, -, cycle, hnew, hid⟩ | ⟨q, hq, hsame, -, hmech⟩
        · left
          rw [PortState.parent_of_tracking hp', hnew]
          exact ⟨fun heq => answer_recommendedSlave (dispatch_returns hd).answer heq.symm, hid⟩
        · right
          cases hp₁.symm.trans hq
          rw [hmech]
          refine ⟨?_, p, hs, hcycle⟩
          rw [← hrole, PortState.parent_of_tracking hp', hsame, PortState.parent_of_tracking hp₁]

end Handlers

end Rptp
