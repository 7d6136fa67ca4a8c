import Rptp.Clock.Calibration
import Rptp.Machine.Run

/-! # The run of a PI servo

A servo has three collaborators with states of their own: the step policy, the drift estimate and the
loop. They agree with the state of the servo along every run.
-/

namespace Rptp

open Machine

/-- The servo takes one sample after another. -/
def PiServo.run {F : Type} [F64 F] (s : PiServo F) (samples : List ServoSample) :
    Act (Effect F) (PiServo F) :=
  Act.runAll (fun s sample => do
    let (s, _) ← s.feed sample
    pure s) s samples

/-- The servo that `ServoConfig.servo` builds, before its first sample. -/
def PiServoConfig.fresh {F : Type} [F64 F] (config : PiServoConfig F) : PiServo F :=
  .new (.new config.firstStepThreshold config.stepThreshold)
    (.new config.driftMin config.driftMax config.driftUpdateInterval) (.new config.kp config.ki)

/-- The sample exceeds a threshold that is enabled, and its master time is a timestamp. The first
threshold counts for the first sample only. -/
def PiServoConfig.Steps {F : Type} (config : PiServoConfig F) (before : List ServoSample)
    (sample : ServoSample) : Prop :=
  ((before = [] ∧ config.firstStepThreshold.Exceeded sample) ∨ config.stepThreshold.Exceeded sample) ∧
    sample.Representable

def Effect.isStep {F : Type} : Effect F → Bool
  | .step _ => true
  | _ => false

/-- A servo with the samples that it was fed: all of them, those after the last step of the clock and
those after it locked. -/
structure FedServo where
  servo : PiServo ℚ
  fed : List ServoSample
  sinceStep : List ServoSample
  sinceLock : List ServoSample

namespace FedServo

def start (config : PiServoConfig ℚ) : FedServo := ⟨config.fresh, [], [], []⟩

def step (w : FedServo) (sample : ServoSample) : Act (Effect ℚ) FedServo := do
  let ((servo, _), calls) ← Act.observe (w.servo.feed sample)
  pure {
    servo
    fed := w.fed ++ [sample]
    sinceStep := if calls.any Effect.isStep then [] else w.sinceStep ++ [sample]
    sinceLock := if w.servo.state = .locked then w.sinceLock ++ [sample] else [] }

def run (w : FedServo) (samples : List ServoSample) : Act (Effect ℚ) FedServo :=
  Act.runAll step w samples

theorem step_returns {w w' : FedServo} {sample : ServoSample} {l : List (Effect ℚ)}
    (h : (w.step sample).Returns w' l) :
    w.servo.Fed sample w'.servo l ∧ w'.fed = w.fed ++ [sample] ∧
      (w'.sinceStep = if l.any Effect.isStep then [] else w.sinceStep ++ [sample]) ∧
      w'.sinceLock = if w.servo.state = .locked then w.sinceLock ++ [sample] else [] := by
  obtain ⟨⟨servo, state⟩, hfeed, rfl⟩ := Act.returns_observe_pure.mp h
  exact ⟨(PiServo.feed_fed hfeed).1, rfl, rfl, rfl⟩

/-- The exact sum of the offsets, in seconds. -/
def offsetSum (samples : List ServoSample) : ℚ := (samples.map fun s => s.offset.asF64Seconds).sum

/-- The collaborators of the servo agree with its state and with what it was fed. -/
structure Disciplined (config : PiServoConfig ℚ) (w : FedServo) : Prop where
  unbased : w.servo.state ≠ .calibrating → w.servo.driftEstimate.sample = none
  integral : w.servo.piLoop.integral = if w.servo.state = .locked then offsetSum w.sinceLock else 0
  baseline : ∀ b ∈ w.servo.driftEstimate.sample, b ∈ w.sinceStep
  spacing : w.servo.driftEstimate.minDelta = config.driftUpdateInterval
  policy : w.servo.stepPolicy =
    ⟨if w.fed = [] then some config.firstStepThreshold else none, config.stepThreshold⟩

theorem disciplined_start (config : PiServoConfig ℚ) : (start config).Disciplined config where
  unbased _ := rfl
  integral := rfl
  baseline b hb := by cases hb
  spacing := rfl
  policy := rfl

theorem estimated_keeps {e e' : ServoDriftEstimate ℚ} {sample : ServoSample} {d : Option (Drift ℚ)}
    (h : e.Estimated sample e' d) :
    e'.minDelta = e.minDelta ∧ ∀ b ∈ e'.sample, b ∈ e.sample ∨ b = sample := by
  cases h with
  | baseline h => exact ⟨rfl, fun b hb => .inr (Option.some.inj hb).symm⟩
  | outOfOrder b h hle => exact ⟨rfl, fun b hb => by cases hb⟩
  | tooClose b h hlow => exact ⟨rfl, fun b hb => .inl hb⟩
  | drift b d h hfollows hd => exact ⟨rfl, fun b hb => .inr (Option.some.inj hb).symm⟩

theorem Disciplined.step {config : PiServoConfig ℚ} {w w' : FedServo} {sample : ServoSample}
    {l : List (Effect ℚ)} (hw : w.Disciplined config) (h : (w.step sample).Returns w' l) :
    w'.Disciplined config := by
  obtain ⟨hfed, hall, hstep, hlock⟩ := step_returns h
  obtain ⟨servo', fed', sinceStep', sinceLock'⟩ := w'
  dsimp only at hfed hall hstep hlock
  subst hall hstep hlock
  have hpolicy : w.servo.stepPolicy.used =
      ⟨if w.fed ++ [sample] = [] then some config.firstStepThreshold else none,
        config.stepThreshold⟩ := by
    rw [StepPolicy.used, hw.policy, if_neg (List.append_ne_nil_of_right_ne_nil _ (List.cons_ne_nil _ _))]
  cases hfed with
  | stepped ts hsteps hts => exact ⟨fun _ => rfl, rfl, fun b hb => (by cases hb), hw.spacing, hpolicy⟩
  | followed hsteps hstate =>
    refine ⟨fun _ => ?_, ?_, fun b hb => ?_, hw.spacing, hpolicy⟩
    · exact hw.unbased (by rw [hstate]; decide)
    · have hsum := hw.integral
      rw [if_pos hstate] at hsum
      dsimp only
      rw [if_pos rfl, if_pos hstate, hsum, offsetSum, offsetSum, List.map_append, List.sum_append]
      simp [F64.add]
    · exact List.mem_append_left _ (hw.baseline b hb)
  | extended e hsteps hstate he =>
    obtain ⟨hspacing, hkept⟩ := estimated_keeps he
    have hintegral := hw.integral
    rw [if_neg hstate] at hintegral
    refine ⟨fun hc => absurd rfl hc, hintegral, fun b hb => ?_, hspacing.trans hw.spacing, hpolicy⟩
    rcases hkept b hb with hb | rfl
    · exact List.mem_append_left _ (hw.baseline b hb)
    · exact List.mem_append_right _ List.mem_cons_self
  | locked e d hsteps hstate he =>
    have hintegral := hw.integral
    rw [if_neg hstate] at hintegral
    refine ⟨fun _ => rfl, ?_, fun b hb => (by cases hb), (estimated_keeps he).1.trans hw.spacing, hpolicy⟩
    dsimp only
    rw [if_pos rfl, if_neg hstate, hintegral]
    rfl

theorem Disciplined.steps_iff {config : PiServoConfig ℚ} {w : FedServo} (hw : w.Disciplined config)
    (sample : ServoSample) : w.servo.stepPolicy.Steps sample ↔ config.Steps w.fed sample := by
  rw [StepPolicy.Steps, PiServoConfig.Steps, hw.policy]
  by_cases hfirst : w.fed = []
  · simp [hfirst]
  · simp [hfirst]

theorem step_of_feed {w : FedServo} {sample : ServoSample} {s' : PiServo ℚ} {l : List (Effect ℚ)}
    (h : (do
      let (s, _) ← w.servo.feed sample
      pure s).Returns s' l) : ∃ w', (w.step sample).Returns w' l ∧ w'.servo = s' := by
  obtain ⟨⟨servo, state⟩, hfeed, rfl⟩ := Act.returns_bind_pure.mp h
  exact ⟨_, Act.returns_observe_pure.mpr ⟨_, hfeed, rfl⟩, rfl⟩

theorem run_of_servo {w : FedServo} {samples : List ServoSample} {s : PiServo ℚ}
    {l : List (Effect ℚ)} (h : (w.servo.run samples).Returns s l) :
    ∃ w', (w.run samples).Returns w' l ∧ w'.servo = s := by
  rw [← List.map_id samples] at h
  exact Act.runAll_ghost servo id (fun _ _ _ _ hs => step_of_feed hs) h

theorem run_fed {config : PiServoConfig ℚ} {samples : List ServoSample} {w : FedServo}
    {l : List (Effect ℚ)} (h : ((start config).run samples).Returns w l) : w.fed = samples := by
  refine Act.runAll_history (P := fun samples w => w.fed = samples) rfl ?_ h
  intro fed w sample w' l' hfed hs
  rw [(step_returns hs).2.1, hfed]

end FedServo

/-- The calls of a sample step the clock as the policy says, and a step clears the servo. A servo
locks only on a sample that follows its baseline. -/
theorem PiServo.Fed.outcome {s s' : PiServo ℚ} {sample : ServoSample} {l : List (Effect ℚ)}
    (h : s.Fed sample s' l) :
    ((∃ ts, .step ts ∈ l) ↔ s.stepPolicy.Steps sample) ∧
      ((∃ ts, .step ts ∈ l) → s'.state = .unlocked ∧ s'.piLoop.integral = 0 ∧
        s'.driftEstimate.sample = none) ∧
      (s.state ≠ .locked → s'.state = .locked → ∃ b, s.driftEstimate.sample = some b ∧
        sample.Follows b s.driftEstimate.minDelta) := by
  cases h with
  | stepped ts hsteps hts =>
    exact ⟨⟨fun _ => hsteps, fun _ => ⟨ts, by simp⟩⟩, fun _ => ⟨rfl, rfl, rfl⟩, fun _ hc => by cases hc⟩
  | followed hsteps hstate =>
    exact ⟨by simp [hsteps], by simp, fun hc => absurd hstate hc⟩
  | extended e hsteps hstate he => exact ⟨by simp [hsteps], by simp, fun _ hc => by cases hc⟩
  | locked e d hsteps hstate he =>
    refine ⟨by simp [hsteps], by simp, fun _ _ => ?_⟩
    cases he with
    | drift b d h hfollows hd => exact ⟨b, h, hfollows⟩

/-- In every run of a fresh servo, the drift estimate has a baseline only while the servo calibrates,
and the integral is the sum of the offsets since it locked. Its next sample steps the clock exactly if
a threshold is exceeded and the master time is a timestamp, a step clears it, and it locks only on a
sample that follows a baseline from after the last step. -/
theorem piServo_disciplined (config : PiServoConfig ℚ) (samples : List ServoSample) (s : PiServo ℚ)
    (l : List (Effect ℚ)) (h : (config.fresh.run samples).Returns s l) :
    ∃ w, ((FedServo.start config).run samples).Returns w l ∧ w.servo = s ∧
      (s.state = .unlocked ∨ s.state = .locked → s.driftEstimate.sample = none) ∧
      s.piLoop.integral = (if s.state = .locked then FedServo.offsetSum w.sinceLock else 0) ∧
      ∀ sample, (config.Steps samples sample → (s.feed sample).Safe) ∧
        ∀ s' state l', (s.feed sample).Returns (s', state) l' → state = s'.state ∧
          ((∃ ts, .step ts ∈ l') ↔ config.Steps samples sample) ∧
          ((∃ ts, .step ts ∈ l') → s'.state = .unlocked ∧ s'.piLoop.integral = 0 ∧
            s'.driftEstimate.sample = none) ∧
          (s.state ≠ .locked → s'.state = .locked → ∃ b ∈ w.sinceStep,
            s.driftEstimate.sample = some b ∧ sample.Follows b config.driftUpdateInterval) := by
  obtain ⟨w, hrun, rfl⟩ := FedServo.run_of_servo (w := .start config) h
  have hw : w.Disciplined config :=
    Act.runAll_preserves (fun _ _ _ _ hw hs => hw.step hs) (FedServo.disciplined_start config) hrun
  have hfed := FedServo.run_fed hrun
  refine ⟨w, hrun, rfl, fun hstate => hw.unbased ?_, hw.integral, fun sample => ⟨fun hsteps => ?_, ?_⟩⟩
  · rcases hstate with hstate | hstate
    · rw [hstate]
      decide
    · rw [hstate]
      decide
  · rw [← hfed, ← hw.steps_iff] at hsteps
    exact PiServo.feed_safe_of_steps hsteps
  · intro s' state l' hfeed
    obtain ⟨hs', hstate⟩ := PiServo.feed_fed hfeed
    obtain ⟨hsteps, hcleared, hlocks⟩ := hs'.outcome
    rw [hw.steps_iff, hfed] at hsteps
    refine ⟨hstate, hsteps, hcleared, fun hunlocked hlocked => ?_⟩
    obtain ⟨b, hb, hfollows⟩ := hlocks hunlocked hlocked
    rw [hw.spacing] at hfollows
    exact ⟨b, hw.baseline b hb, hb, hfollows⟩

/-- A whole number of seconds. -/
def spanOf (seconds : UInt16) : TimeInterval where
  seconds := seconds.toNat
  nanos := 0
  seconds_range := inSigned_64.mpr (by have h := seconds.toNat_lt; omega)
  min_nanos := .inl (by norm_num; omega)
  nanos_lt := nanosPerSecond_pos

/-- A sample at whole seconds. -/
def sampleAt (ingress offset : UInt16) : ServoSample where
  ingress := stampOf ingress
  offset := spanOf offset

/-- Steps above 10 s, drifts up to one half, baselines of 4 s. -/
def tenSecondConfig : PiServoConfig ℚ where
  firstStepThreshold := .enabled (spanOf 10)
  stepThreshold := .enabled (spanOf 10)
  driftMin := ⟨-1 / 2⟩
  driftMax := ⟨1 / 2⟩
  driftUpdateInterval := spanOf 4
  kp := 1 / 2
  ki := 1 / 2

/-- The second sample locks the servo, and the third one is the first of the sum. -/
theorem piServo_disciplined_locked : ∃ (s : PiServo ℚ) (l : List (Effect ℚ)),
    (tenSecondConfig.fresh.run [sampleAt 0 0, sampleAt 5 1, sampleAt 6 2]).Returns s l ∧
      s.state = .locked ∧ s.piLoop.integral = 2 ∧ s.driftEstimate.sample = none := by
  have hrun : (tenSecondConfig.fresh.run [sampleAt 0 0, sampleAt 5 1, sampleAt 6 2]).run.toOption.map
      (fun r => (r.1.state, r.1.piLoop.integral)) = some (.locked, 2) := by decide +kernel
  obtain ⟨⟨s, l⟩, hreturns, hpair⟩ := Option.map_eq_some_iff.mp hrun
  have hs : (tenSecondConfig.fresh.run [sampleAt 0 0, sampleAt 5 1, sampleAt 6 2]).Returns s l :=
    Act.returns_of_toOption hreturns
  obtain ⟨hstate, hintegral⟩ := Prod.mk.inj hpair
  obtain ⟨w, -, -, hunbased, -⟩ := piServo_disciplined tenSecondConfig _ s l hs
  exact ⟨s, l, hs, hstate, hintegral, hunbased (.inr hstate)⟩

end Rptp
