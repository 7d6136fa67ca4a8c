import Rptp.Clock.Servo

/-! # What a sample makes a PI servo do

A sample steps the clock, or it extends a calibration, ends it, or is followed by the loop. Which of
them happens is a matter of exact times, whatever the numbers of the loop are.
-/

namespace Rptp

open Machine

variable {F : Type} [F64 F]

/-- The offset exceeds a positive threshold, in either direction. -/
def ServoThreshold.Exceeded (t : ServoThreshold) (sample : ServoSample) : Prop :=
  match t with
  | .disabled => False
  | .enabled t => 0 < t.ns ∧ t.ns < |sample.offset.ns|

instance (t : ServoThreshold) (sample : ServoSample) : Decidable (t.Exceeded sample) :=
  match t with
  | .disabled => inferInstanceAs (Decidable False)
  | .enabled t => inferInstanceAs (Decidable (0 < t.ns ∧ t.ns < |sample.offset.ns|))

theorem ServoThreshold.exceededBy_eq (t : ServoThreshold) (sample : ServoSample) :
    t.exceededBy sample = .ok (decide (t.Exceeded sample)) := by
  cases t with
  | disabled => rfl
  | enabled t =>
    obtain ⟨d, hd, hns⟩ := sample.offset.abs_spec
    have hzero : TimeInterval.zero.lt t = decide (0 < t.ns) :=
      Bool.eq_iff_iff.mpr (TimeInterval.lt_iff.trans (decide_eq_true_iff (p := 0 < t.ns)).symm)
    have hbeyond : sample.beyondThreshold t = .ok (decide (t.ns < |sample.offset.ns|)) := by
      rw [ServoSample.beyondThreshold, hd, Checked.ok_bind, ← hns]
      exact congrArg Except.ok (Bool.eq_iff_iff.mpr (TimeInterval.lt_iff.trans decide_eq_true_iff.symm))
    rw [exceededBy, hzero, hbeyond]
    by_cases hpos : 0 < t.ns
    · simp [Exceeded, hpos]
    · simp [Exceeded, hpos]

/-- The master time of a sample is a timestamp. -/
def ServoSample.Representable (s : ServoSample) : Prop :=
  0 ≤ s.ingress.ns - s.offset.ns ∧ s.ingress.ns - s.offset.ns < 2 ^ 48 * 1000000000

theorem ServoSample.masterEstimate_cases (s : ServoSample) :
    (∃ ts, s.Representable ∧ ts.ns = s.ingress.ns - s.offset.ns ∧ s.masterEstimate = .ok (some ts)) ∨
      (¬ s.Representable ∧ s.masterEstimate = .ok none) := by
  rw [masterEstimate, TimeStamp.checkedSub_spec]
  cases hns : TimeStamp.ofNs (s.ingress.ns - s.offset.ns) with
  | none =>
    rw [TimeStamp.ofNs_eq_none_iff] at hns
    exact .inr ⟨fun h => by unfold Representable at h; omega, rfl⟩
  | some ts =>
    have hts := TimeStamp.ns_of_ofNs hns
    exact .inl ⟨ts, by rw [Representable, ← hts]; exact ts.ns_range, hts, rfl⟩

namespace StepPolicy

/-- A threshold of the policy is exceeded, and there is a timestamp to step to. The initial threshold
counts as long as it is there. -/
def Steps (p : StepPolicy) (sample : ServoSample) : Prop :=
  ((∃ t ∈ p.initialThreshold, t.Exceeded sample) ∨ p.threshold.Exceeded sample) ∧ sample.Representable

/-- The policy after a sample. -/
def used (p : StepPolicy) : StepPolicy := { p with initialThreshold := none }

theorem shouldStep_eq (p : StepPolicy) (sample : ServoSample) :
    p.shouldStep sample =
      if (∃ t ∈ p.initialThreshold, t.Exceeded sample) ∨ p.threshold.Exceeded sample then
        (fun decision => (p.used, decision)) <$> estimateDecision sample
      else .ok (p.used, .noStep) := by
  unfold shouldStep
  dsimp only
  rw [p.threshold.exceededBy_eq]
  cases p.initialThreshold with
  | none =>
    by_cases hexceeded : p.threshold.Exceeded sample
    · rw [if_pos (.inr hexceeded), decide_eq_true hexceeded, map_eq_pure_bind]
      rfl
    · rw [if_neg (by simpa using hexceeded), decide_eq_false hexceeded]
      rfl
  | some t =>
    dsimp only
    rw [t.exceededBy_eq]
    by_cases hinitial : t.Exceeded sample
    · rw [if_pos (.inl ⟨t, rfl, hinitial⟩), decide_eq_true hinitial, map_eq_pure_bind]
      rfl
    · rw [decide_eq_false hinitial]
      by_cases hexceeded : p.threshold.Exceeded sample
      · rw [if_pos (.inr hexceeded), decide_eq_true hexceeded, map_eq_pure_bind]
        rfl
      · rw [if_neg (by simpa [hinitial] using hexceeded), decide_eq_false hexceeded]
        rfl

theorem shouldStep_cases (p : StepPolicy) (sample : ServoSample) :
    (∃ ts, p.Steps sample ∧ ts.ns = sample.ingress.ns - sample.offset.ns ∧
      p.shouldStep sample = .ok (p.used, .stepTo ts)) ∨
    (¬ p.Steps sample ∧ p.shouldStep sample = .ok (p.used, .noStep)) := by
  rw [shouldStep_eq, estimateDecision]
  split_ifs with hexceeded
  · rcases sample.masterEstimate_cases with ⟨ts, hrep, hns, hestimate⟩ | ⟨hrep, hestimate⟩
    · rw [hestimate]
      exact .inl ⟨ts, ⟨hexceeded, hrep⟩, hns, rfl⟩
    · rw [hestimate]
      exact .inr ⟨fun h => hrep h.2, rfl⟩
  · exact .inr ⟨fun h => hexceeded h.1, rfl⟩

end StepPolicy

namespace ServoSample

/-- The sample is later than the baseline, and at least as much as calibration asks for. -/
structure Follows (s b : ServoSample) (minDelta : TimeInterval) : Prop where
  later : 0 < s.ingress.ns - b.ingress.ns
  spaced : minDelta.ns ≤ s.ingress.ns - b.ingress.ns

/-- The seconds of a number of nanoseconds. -/
def secondsOf (ns : ℤ) : F := F64.div (F64.ofInt ns) (F64.ofInt 1000000000)

/-- What the offset gained per second since the baseline. -/
def driftFrom (s b : ServoSample) : Drift F :=
  ⟨F64.div (secondsOf (s.offset.ns - b.offset.ns)) (secondsOf (s.ingress.ns - b.ingress.ns))⟩

/-- How the sample relates to the baseline in exact time. -/
def ordering (s b : ServoSample) (minDelta : TimeInterval) : ServoSampleOrdering F :=
  if s.ingress.ns ≤ b.ingress.ns then .outOfOrder
  else if s.ingress.ns - b.ingress.ns < minDelta.ns then .inOrderButLowDelta
  else .inOrder (s.driftFrom b)

/-- Only the difference of the offsets can abort. -/
theorem drift_eq (s b : ServoSample) (minDelta : TimeInterval) :
    s.drift b minDelta = (fun _ => (s.ordering b minDelta : ServoSampleOrdering F)) <$>
      s.offset.sub b.offset := by
  obtain ⟨ingress, hingress, hingressns⟩ := s.ingress.sub_spec b.ingress
  obtain ⟨zero, hzero, hzerons⟩ := TimeInterval.new_spec (s := 0) (n := 0) (by norm_num) (by norm_num)
    (by norm_num)
  obtain ⟨size, hsize, hsizens⟩ := ingress.abs_spec
  rw [drift, hingress, Checked.ok_bind]
  cases hoffset : s.offset.sub b.offset with
  | error p => rfl
  | ok offset =>
    have hoffsetns := TimeInterval.ns_of_sub hoffset
    have hle : ingress.le zero = true ↔ s.ingress.ns ≤ b.ingress.ns := by
      rw [TimeInterval.le_iff, hingressns, hzerons]
      omega
    rw [Checked.ok_bind, hzero, Checked.ok_bind, hsize, Checked.map_ok, ordering]
    by_cases hlate : s.ingress.ns ≤ b.ingress.ns
    · rw [if_pos (hle.mpr hlate), if_pos hlate]
      rfl
    · have hlow : size.lt minDelta = true ↔ s.ingress.ns - b.ingress.ns < minDelta.ns := by
        rw [TimeInterval.lt_iff, hsizens, hingressns, abs_of_nonneg (by omega)]
      rw [if_neg (hle.not.mpr hlate), if_neg hlate, Checked.ok_bind]
      by_cases hclose : s.ingress.ns - b.ingress.ns < minDelta.ns
      · rw [if_pos (hlow.mpr hclose), if_pos hclose]
        rfl
      · rw [if_neg (hlow.not.mpr hclose), if_neg hclose, driftFrom, ← hingressns, ← hoffsetns]
        rfl

theorem drift_cases {s b : ServoSample} {minDelta : TimeInterval} {r : ServoSampleOrdering F}
    (h : s.drift b minDelta = .ok r) :
    (s.ingress.ns ≤ b.ingress.ns ∧ r = .outOfOrder) ∨
      (s.ingress.ns - b.ingress.ns < minDelta.ns ∧ r = .inOrderButLowDelta) ∨
      (s.Follows b minDelta ∧ r = .inOrder (s.driftFrom b)) := by
  rw [drift_eq] at h
  cases hoffset : s.offset.sub b.offset with
  | error p =>
    rw [hoffset] at h
    cases h
  | ok offset =>
    rw [hoffset, Checked.map_ok] at h
    have hr : r = s.ordering b minDelta := (Except.ok.inj h).symm
    unfold ordering at hr
    split_ifs at hr with hle hlow
    · exact .inl ⟨hle, hr⟩
    · exact .inr (.inl ⟨hlow, hr⟩)
    · exact .inr (.inr ⟨⟨by omega, by omega⟩, hr⟩)

end ServoSample

/-- What a sample does to a drift estimate. -/
inductive ServoDriftEstimate.Estimated (e : ServoDriftEstimate F) (sample : ServoSample) :
    ServoDriftEstimate F → Option (Drift F) → Prop
  | baseline (h : e.sample = none) : Estimated e sample { e with sample := some sample } none
  | outOfOrder (b : ServoSample) (h : e.sample = some b) (hle : sample.ingress.ns ≤ b.ingress.ns) :
    Estimated e sample { e with sample := none } none
  | tooClose (b : ServoSample) (h : e.sample = some b)
    (hlow : sample.ingress.ns - b.ingress.ns < e.minDelta.ns) : Estimated e sample e none
  | drift (b : ServoSample) (d : Drift F) (h : e.sample = some b)
    (hfollows : sample.Follows b e.minDelta) (hd : (sample.driftFrom b).clamp e.min e.max = .ok d) :
    Estimated e sample { e with sample := some sample } (some d)

theorem ServoDriftEstimate.estimated {e e' : ServoDriftEstimate F} {sample : ServoSample}
    {d : Option (Drift F)} (h : e.estimate sample = .ok (e', d)) : e.Estimated sample e' d := by
  unfold estimate at h
  cases hb : e.sample with
  | none =>
    rw [hb] at h
    cases h
    exact .baseline hb
  | some b =>
    rw [hb] at h
    obtain ⟨ordering, hordering, hrest⟩ := Checked.bind_eq_ok.mp h
    rcases ServoSample.drift_cases hordering with ⟨hle, rfl⟩ | ⟨hlow, rfl⟩ | ⟨hfollows, rfl⟩
    · cases hrest
      exact .outOfOrder b hb hle
    · cases hrest
      exact .tooClose b hb hlow
    · obtain ⟨clamped, hclamped, hret⟩ := Checked.bind_eq_ok.mp hrest
      cases hret
      exact .drift b clamped hb hfollows hclamped

/-- The rate of the loop on the next error. -/
def PiLoop.rate (p : PiLoop F) (error : F) : F :=
  F64.sub (F64.sub (F64.ofInt 1) (F64.mul p.kp error)) (F64.mul p.ki (F64.add p.integral error))

namespace PiServo

/-- What a sample does to a servo, with the calls that it makes. -/
inductive Fed (s : PiServo F) (sample : ServoSample) : PiServo F → List (Effect F) → Prop
  | stepped (ts : TimeStamp) (hsteps : s.stepPolicy.Steps sample)
    (hts : ts.ns = sample.ingress.ns - sample.offset.ns) :
    Fed s sample ⟨s.stepPolicy.used, s.driftEstimate.reset, s.piLoop.reset, .unlocked⟩
      [.recordOffsetFromMaster sample.offset, .step ts]
  | followed (hsteps : ¬ s.stepPolicy.Steps sample) (hstate : s.state = .locked) :
    Fed s sample ⟨s.stepPolicy.used, s.driftEstimate,
        { s.piLoop with integral := F64.add s.piLoop.integral sample.offset.asF64Seconds }, .locked⟩
      [.recordOffsetFromMaster sample.offset, .adjust (s.piLoop.rate sample.offset.asF64Seconds)]
  | extended (e : ServoDriftEstimate F) (hsteps : ¬ s.stepPolicy.Steps sample)
    (hstate : s.state ≠ .locked) (he : s.driftEstimate.Estimated sample e none) :
    Fed s sample ⟨s.stepPolicy.used, e, s.piLoop, .calibrating⟩ [.recordOffsetFromMaster sample.offset]
  | locked (e : ServoDriftEstimate F) (d : Drift F) (hsteps : ¬ s.stepPolicy.Steps sample)
    (hstate : s.state ≠ .locked) (he : s.driftEstimate.Estimated sample e (some d)) :
    Fed s sample ⟨s.stepPolicy.used, e.reset, s.piLoop, .locked⟩
      [.recordOffsetFromMaster sample.offset, .adjust d.asRate]

theorem step_cases {s t : PiServo F} {sample : ServoSample} {stepped : Option ServoState}
    {l : List (Effect F)} (h : (s.step sample).Returns (t, stepped) l) :
    (∃ ts, s.stepPolicy.Steps sample ∧ ts.ns = sample.ingress.ns - sample.offset.ns ∧
      t = ⟨s.stepPolicy.used, s.driftEstimate.reset, s.piLoop.reset, s.state⟩ ∧
      stepped = some .unlocked ∧ l = [.step ts]) ∨
    (¬ s.stepPolicy.Steps sample ∧ t = { s with stepPolicy := s.stepPolicy.used } ∧ stepped = none ∧
      l = []) := by
  obtain ⟨⟨policy, decision⟩, hdecision, hrest⟩ := Act.returns_lift_bind.mp h
  rcases s.stepPolicy.shouldStep_cases sample with ⟨ts, hsteps, hts, hshould⟩ | ⟨hsteps, hshould⟩
  · rw [hshould] at hdecision
    cases hdecision
    obtain ⟨l', hpure, hl⟩ := Act.returns_emit_bind.mp hrest
    obtain ⟨hret, rfl⟩ := Act.returns_pure.mp hpure
    cases hret
    exact .inl ⟨ts, hsteps, hts, rfl, rfl, hl⟩
  · rw [hshould] at hdecision
    cases hdecision
    obtain ⟨hret, hl⟩ := Act.returns_pure.mp hrest
    cases hret
    exact .inr ⟨hsteps, rfl, rfl, hl⟩

theorem step_safe (s : PiServo F) (sample : ServoSample) : (s.step sample).Safe := by
  rcases s.stepPolicy.shouldStep_cases sample with ⟨ts, -, -, hshould⟩ | ⟨-, hshould⟩
  · refine Act.safe_bind (Act.safe_lift hshould) fun r l hr => ?_
    obtain ⟨hret, -⟩ := Act.returns_lift.mp hr
    rw [hshould] at hret
    cases hret
    exact Act.safe_bind (Act.safe_emit _) fun _ _ _ => Act.safe_pure _
  · refine Act.safe_bind (Act.safe_lift hshould) fun r l hr => ?_
    obtain ⟨hret, -⟩ := Act.returns_lift.mp hr
    rw [hshould] at hret
    cases hret
    exact Act.safe_pure _

theorem feed_safe_of_steps {s : PiServo F} {sample : ServoSample} (h : s.stepPolicy.Steps sample) :
    (s.feed sample).Safe := by
  refine Act.safe_bind (Act.safe_emit _) fun _ _ _ => ?_
  refine Act.safe_bind (s.step_safe sample) fun r l hr => ?_
  obtain ⟨t, stepped⟩ := r
  rcases step_cases hr with ⟨ts, -, -, -, rfl, -⟩ | ⟨hsteps, -⟩
  · exact Act.safe_pure _
  · exact absurd h hsteps

theorem calibrate_cases {s s' : PiServo F} {sample : ServoSample} {state : ServoState}
    {l : List (Effect F)} (h : (s.calibrate sample).Returns (s', state) l) :
    (∃ e, s.driftEstimate.Estimated sample e none ∧ s' = { s with driftEstimate := e } ∧
      state = .calibrating ∧ l = []) ∨
    ∃ e d, s.driftEstimate.Estimated sample e (some d) ∧
      s' = { s with driftEstimate := e.reset } ∧ state = .locked ∧ l = [.adjust d.asRate] := by
  obtain ⟨⟨e, drift⟩, he, hrest⟩ := Act.returns_lift_bind.mp h
  cases drift with
  | none =>
    obtain ⟨hret, hl⟩ := Act.returns_pure.mp hrest
    cases hret
    exact .inl ⟨e, ServoDriftEstimate.estimated he, rfl, rfl, hl⟩
  | some d =>
    obtain ⟨l', hpure, hl⟩ := Act.returns_emit_bind.mp hrest
    obtain ⟨hret, rfl⟩ := Act.returns_pure.mp hpure
    cases hret
    exact .inr ⟨e, d, ServoDriftEstimate.estimated he, rfl, rfl, hl⟩

theorem feed_fed {s s' : PiServo F} {sample : ServoSample} {state : ServoState}
    {l : List (Effect F)} (h : (s.feed sample).Returns (s', state) l) :
    s.Fed sample s' l ∧ state = s'.state := by
  obtain ⟨l₁, hrest, rfl⟩ := Act.returns_emit_bind.mp h
  obtain ⟨⟨t, stepped⟩, l₂, l₃, hstep, hbranch, rfl⟩ := Act.returns_bind.mp hrest
  rcases step_cases hstep with ⟨ts, hsteps, hts, rfl, rfl, rfl⟩ | ⟨hsteps, rfl, rfl, rfl⟩
  · obtain ⟨hret, rfl⟩ := Act.returns_pure.mp hbranch
    cases hret
    exact ⟨.stepped ts hsteps hts, rfl⟩
  · have hcalibrate (hstate : s.state ≠ .locked) (hcalls :
        (PiServo.calibrate { s with stepPolicy := s.stepPolicy.used } sample >>= fun r =>
          pure ({ r.1 with state := r.2 }, r.2)).Returns (s', state) l₃) :
        s.Fed sample s' (.recordOffsetFromMaster sample.offset :: ([] ++ l₃)) ∧ state = s'.state := by
      obtain ⟨⟨u, state'⟩, hcalibrate, hret⟩ := Act.returns_bind_pure.mp hcalls
      cases hret
      rcases calibrate_cases hcalibrate with ⟨e, he, rfl, rfl, rfl⟩ | ⟨e, d, he, rfl, rfl, rfl⟩
      · exact ⟨.extended e hsteps hstate he, rfl⟩
      · exact ⟨.locked e d hsteps hstate he, rfl⟩
    obtain ⟨policy, estimate, piLoop, state₀⟩ := s
    cases state₀ with
    | unlocked => exact hcalibrate (by simp) hbranch
    | calibrating => exact hcalibrate (by simp) hbranch
    | locked =>
      obtain ⟨piLoop, l₄, l₅, hloop, htail, rfl⟩ := Act.returns_bind.mp hbranch
      obtain ⟨l', hpure, rfl⟩ := Act.returns_emit_bind.mp hloop
      obtain ⟨rfl, rfl⟩ := Act.returns_pure.mp hpure
      rw [pure_bind] at htail
      obtain ⟨hret, rfl⟩ := Act.returns_pure.mp htail
      cases hret
      exact ⟨.followed hsteps rfl, rfl⟩

end PiServo

end Rptp
