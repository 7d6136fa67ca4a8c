import Rptp.Port.Step

/-! # What a port records of its exchanges

The fragments of a delay mechanism are its stored messages and timestamps. A port that tracks a
parent records a fragment of each Sync, FollowUp and DelayResp of that parent and of its own
DelayReq, and it feeds its servo only on a Sync or FollowUp that completes a sample.
-/

namespace Rptp

open Machine

variable {F R : Type}

/-- What is stored of the exchanges with the parent. -/
structure Fragments where
  sync : SyncExchange
  delay : DelayExchange
  ingress : Option TimeStamp

def EndToEndDelayMechanism.fragments (m : EndToEndDelayMechanism) : Fragments :=
  ⟨m.syncExchange, m.delayExchange, m.syncIngressTimestamp⟩

/-- The step recorded its message, and fed nothing but the sample that this completed. -/
structure Recorded (p : ParentTrackingPort F R) (input : PortInput) (p' : ParentTrackingPort F R)
    (l : List (Effect F)) : Prop where
  fragments : p'.delayMechanism.fragments = (p.record input).fragments
  fed : ∀ sample, Effect.servoFeed sample ∈ l →
    input.Samples p.bmca.parentPortIdentity ∧ (p.record input).sample = .ok (some sample)

theorem recorded_of_quiet {p p' : ParentTrackingPort F R} {input : PortInput}
    {l : List (Effect F)} (hfragments : p'.delayMechanism.fragments = (p.record input).fragments)
    (hquiet : ∀ sample, Effect.servoFeed sample ∉ l) : Recorded p input p' l :=
  ⟨hfragments, fun sample h => absurd h (hquiet sample)⟩

section Handlers

variable [F64 F]

namespace ParentTrackingPort

theorem feedServo_feeds {react : ServoState → Option StateDecision}
    {p p' : ParentTrackingPort F R} {d : Option StateDecision} {l : List (Effect F)}
    (h : (p.feedServo react).Returns (p', d) l) {sample : ServoSample}
    (hs : Effect.servoFeed sample ∈ l) : p.delayMechanism.sample = .ok (some sample) := by
  rw [feedServo, Act.returns_lift_bind] at h
  obtain ⟨taken, htaken, h⟩ := h
  cases taken with
  | none =>
    obtain ⟨-, rfl⟩ := Act.returns_pure.mp h
    cases hs
  | some taken =>
    obtain ⟨l', hfeed, rfl⟩ := Act.returns_emit_bind.mp h
    rcases List.mem_cons.mp hs with hs | hs
    · rw [htaken, Effect.servoFeed.inj hs]
    · obtain ⟨a, ha, -⟩ := Act.returns_bind_pure.mp hfeed
      exact absurd (p.servo.feed_only taken a l' ha _ hs) id

end ParentTrackingPort

variable [ForeignClockRecords R]

theorem ParentTrackingPort.handle_recorded
    {react : PortIdentity → ServoState → Option StateDecision} {env : Env}
    {p p' : ParentTrackingPort F R} {input : PortInput} {d : Option StateDecision}
    {l : List (Effect F)} (h : (p.handle react env input).Returns (p', d) l) :
    Recorded p input p' l := by
  cases handle_cases h with
  | recorded => exact recorded_of_quiet rfl (by simp)
  | sampled hin _ hfed =>
    obtain ⟨⟨servo, rfl⟩, -⟩ := feedServo_returns hfed
    exact ⟨rfl, fun sample hs => ⟨hin, feedServo_feeds hfed hs⟩⟩
  | announced hfed =>
    obtain ⟨-, -, -, -, -, htriggers⟩ := feedBmca_returns hfed
    refine recorded_of_quiet rfl fun sample hs => ?_
    obtain ⟨port, e, he⟩ := htriggers _ hs
    cases he
  | requested hsent =>
    refine recorded_of_quiet rfl fun sample hs => ?_
    exact DomainPort.sendEvent_only (P := fun e => e ≠ Effect.servoFeed sample) env p.port _
      (fun _ _ => by simp) (by simp) _ l hsent _ hs rfl
  | expired => exact recorded_of_quiet rfl (by simp)
  | decided => exact recorded_of_quiet rfl (by simp)

/-- What a step does to the fragments of a port, and what it feeds to the servo. -/
structure Measured (s : PortState F R) (input : PortInput) (s' : PortState F R)
    (l : List (Effect F)) : Prop where
  fragments : ∀ p', s'.tracking = some p' →
    (∃ cycle, p'.delayMechanism = .new cycle) ∨
      ∃ p, s.tracking = some p ∧ p'.delayMechanism.fragments = (p.record input).fragments
  fed : ∀ sample, Effect.servoFeed sample ∈ l → ∃ p, s.tracking = some p ∧
    input.Samples p.bmca.parentPortIdentity ∧ (p.record input).sample = .ok (some sample)

/-- A port that tracks a parent after a dispatch tracked it before and has recorded the message. -/
theorem dispatch_recorded {env : Env} {s s' : PortState F R} {input : PortInput}
    {d : Option StateDecision} {l : List (Effect F)}
    (h : (s.dispatch env input).Returns (s', d) l) {p' : ParentTrackingPort F R}
    (hp' : s'.tracking = some p') : ∃ p, s.tracking = some p ∧ Recorded p input p' l := by
  obtain ⟨k, p, hp, hhandle⟩ := dispatch_tracking h hp'
  exact ⟨p, hp, ParentTrackingPort.handle_recorded hhandle⟩

theorem dispatch_measured {env : Env} {s s' : PortState F R} {input : PortInput}
    {d : Option StateDecision} {l : List (Effect F)}
    (h : (s.dispatch env input).Returns (s', d) l) : Measured s input s' l := by
  constructor
  · intro p' hp'
    obtain ⟨p, hp, hr⟩ := dispatch_recorded h hp'
    exact .inr ⟨p, hp, hr.fragments⟩
  · intro sample hs
    rcases s.tracking_cases with ⟨k, p, rfl⟩ | huntracked
    · obtain ⟨p', rfl, hp'⟩ := TrackingRole.dispatch_returns h
      exact ⟨p, k.tracking_state p, (ParentTrackingPort.handle_recorded hp').fed sample hs⟩
    · obtain ⟨parent, hparent⟩ := dispatch_only env s input (s', d) l h _ hs
      exact absurd hparent (huntracked parent)

/-- A step records its message and feeds at most the sample that this completes. -/
theorem step_measured {env : Env} {s s' : PortState F R} {input : PortInput} {l : List (Effect F)}
    (h : (s.step env input).Returns s' l) : Measured s input s' l := by
  rw [PortState.step, Act.returns_bind] at h
  obtain ⟨⟨s₁, d⟩, l₁, l₂, hd, h, rfl⟩ := h
  have hm := dispatch_measured hd
  cases d with
  | none =>
    obtain ⟨rfl, rfl⟩ := Act.returns_pure.mp h
    rw [List.append_nil]
    exact hm
  | some decision =>
    obtain ⟨r, -, hmoved⟩ := apply_returns h
    constructor
    · intro p' hp'
      rcases apply_tracking h hp' with ⟨-, -, cycle, hnew, -⟩ | ⟨p, hp, -, -, hkept⟩
      · exact .inl ⟨cycle, hnew⟩
      · rw [hkept]
        exact hm.fragments p hp
    · intro sample hs
      rcases List.mem_append.mp hs with hs | hs
      · exact hm.fed sample hs
      · obtain ⟨port, e, he⟩ := hmoved.triggers _ hs
        cases he

end Handlers

end Rptp
