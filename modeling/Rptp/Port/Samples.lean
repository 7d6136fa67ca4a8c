import Rptp.Port.Fragments

/-! # The samples of a step

A one-step Sync or a FollowUp of the parent feeds the servo exactly the sample that the delay
mechanism then has. Nothing else feeds it.
-/

namespace Rptp

open Machine

variable {F R : Type}

/-- The samples that are fed to the servo. -/
def feeds (l : List (Effect F)) : List ServoSample :=
  l.filterMap fun
    | .servoFeed sample => some sample
    | _ => none

theorem feeds_append (l l' : List (Effect F)) : feeds (l ++ l') = feeds l ++ feeds l' :=
  List.filterMap_append

theorem mem_feeds {l : List (Effect F)} {sample : ServoSample} :
    sample ∈ feeds l ↔ Effect.servoFeed sample ∈ l := by
  unfold feeds
  rw [List.mem_filterMap]
  constructor
  · rintro ⟨e, he, hsample⟩
    cases e
    case servoFeed taken =>
      cases hsample
      exact he
    all_goals cases hsample
  · intro h
    exact ⟨_, h, rfl⟩

theorem feeds_eq_nil {l : List (Effect F)} (h : ∀ sample, Effect.servoFeed sample ∉ l) :
    feeds l = [] :=
  List.eq_nil_iff_forall_not_mem.mpr fun sample hs => h sample (mem_feeds.mp hs)

section Step

variable [F64 F]

theorem ParentTrackingPort.feedServo_samples {react : ServoState → Option StateDecision}
    {p : ParentTrackingPort F R} {r : ParentTrackingPort F R × Option StateDecision}
    {l : List (Effect F)} (h : (p.feedServo react).Returns r l) :
    ∃ sample, p.delayMechanism.sample = .ok sample ∧ feeds l = sample.toList := by
  rw [feedServo, Act.returns_lift_bind] at h
  obtain ⟨taken, htaken, h⟩ := h
  refine ⟨taken, htaken, ?_⟩
  cases taken with
  | none =>
    obtain ⟨-, rfl⟩ := Act.returns_pure.mp h
    rfl
  | some taken =>
    obtain ⟨l', hfeed, rfl⟩ := Act.returns_emit_bind.mp h
    obtain ⟨a, ha, -⟩ := Act.returns_bind_pure.mp hfeed
    have hquiet : feeds l' = [] := feeds_eq_nil fun sample hs =>
      absurd (p.servo.feed_only taken a l' ha _ hs) id
    change taken :: feeds l' = [taken]
    rw [hquiet]

variable [ForeignClockRecords R]

theorem ParentTrackingPort.handle_samples
    {react : PortIdentity → ServoState → Option StateDecision} {env : Env}
    {p p' : ParentTrackingPort F R} {input : PortInput} {d : Option StateDecision}
    {l : List (Effect F)} (hin : input.Samples p.bmca.parentPortIdentity)
    (h : (p.handle react env input).Returns (p', d) l) :
    ∃ sample, (p.record input).sample = .ok sample ∧ feeds l = sample.toList := by
  cases handle_cases h with
  | recorded _ hsample => exact absurd hin hsample
  | sampled _ _ hfed => exact feedServo_samples hfed
  | announced => exact absurd hin id
  | requested => exact absurd hin id
  | expired => exact absurd hin id
  | decided => exact absurd hin id

theorem dispatch_samples {env : Env} {s s' : PortState F R} {p : ParentTrackingPort F R}
    {input : PortInput} {d : Option StateDecision} {l : List (Effect F)}
    (hp : s.tracking = some p) (hin : input.Samples p.bmca.parentPortIdentity)
    (h : (s.dispatch env input).Returns (s', d) l) :
    ∃ sample, (p.record input).sample = .ok sample ∧ feeds l = sample.toList := by
  obtain ⟨k, p', -, hhandle⟩ := dispatch_handled hp h
  exact ParentTrackingPort.handle_samples hin hhandle

/-- A message on which a sample is taken makes a step feed the sample that it completes. -/
theorem step_samples {env : Env} {s s' : PortState F R} {input : PortInput} {l : List (Effect F)}
    {p : ParentTrackingPort F R} (hp : s.tracking = some p)
    (hin : input.Samples p.bmca.parentPortIdentity) (h : (s.step env input).Returns s' l) :
    ∃ sample, (p.record input).sample = .ok sample ∧ feeds l = sample.toList := by
  rw [PortState.step, Act.returns_bind] at h
  obtain ⟨⟨s₁, d⟩, l₁, l₂, hd, hrest, rfl⟩ := h
  obtain ⟨sample, hsample, hfeeds⟩ := dispatch_samples hp hin hd
  have hquiet : feeds l₂ = [] := by
    apply feeds_eq_nil
    intro sample' hmem
    cases d with
    | none =>
      obtain ⟨-, rfl⟩ := Act.returns_pure.mp hrest
      cases hmem
    | some d =>
      obtain ⟨r, -, hmoved⟩ := apply_returns hrest
      obtain ⟨port, e, he⟩ := hmoved.triggers _ hmem
      cases he
  refine ⟨sample, hsample, ?_⟩
  rw [feeds_append, hfeeds, hquiet, List.append_nil]

theorem step_feeds_nil {env : Env} {s s' : PortState F R} {input : PortInput} {l : List (Effect F)}
    (hin : ∀ p, s.tracking = some p → ¬ input.Samples p.bmca.parentPortIdentity)
    (h : (s.step env input).Returns s' l) : feeds l = [] := by
  apply feeds_eq_nil
  intro sample hs
  obtain ⟨p, hp, hsamples, -⟩ := (step_measured h).fed sample hs
  exact hin p hp hsamples

end Step

end Rptp
