import Rptp.Port.Environment
import Rptp.Time.Arithmetic

/-! # Clock servos

The stepping servo sets the clock to the master estimate of every sample. The PI servo steps above
its thresholds, calibrates the rate from two samples and then follows the offset. Floating-point
numbers are a parameter with the operations that the source uses.
-/

namespace Rptp

open Machine

/-- The `f64` operations of the servo. -/
class F64 (F : Type) where
  ofInt : ℤ → F
  add : F → F → F
  sub : F → F → F
  mul : F → F → F
  div : F → F → F
  lt : F → F → Bool
  le : F → F → Bool

/-- The reading of `f64` as exact numbers. -/
instance : F64 ℚ where
  ofInt z := z
  add := (· + ·)
  sub := (· - ·)
  mul := (· * ·)
  div := (· / ·)
  lt a b := decide (a < b)
  le a b := decide (a ≤ b)

inductive ServoState where
  | unlocked
  | calibrating
  | locked
deriving DecidableEq

variable {F : Type} [F64 F]

def TimeInterval.asF64Seconds (d : TimeInterval) : F :=
  F64.div (F64.ofInt d.totalNanos) (F64.ofInt 1000000000)

structure Drift (F : Type) where
  drift : F

namespace Drift

/-- `f64::clamp`, which asserts its bounds. -/
def clamp (d min max : Drift F) : Checked (Drift F) := do
  Checked.assert (F64.le min.drift max.drift) "min <= max"
  let x := if F64.lt d.drift min.drift then min.drift else d.drift
  pure ⟨if F64.lt max.drift x then max.drift else x⟩

def asRate (d : Drift F) : F := F64.add (F64.ofInt 1) d.drift

end Drift

inductive ServoThreshold where
  | disabled
  | enabled (threshold : TimeInterval)
deriving DecidableEq

inductive ServoStepDecision where
  | stepTo (ts : TimeStamp)
  | noStep
deriving DecidableEq

inductive ServoSampleOrdering (F : Type) where
  | inOrder (drift : Drift F)
  | inOrderButLowDelta
  | outOfOrder

namespace ServoSample

def masterEstimate (s : ServoSample) : Checked (Option TimeStamp) := s.ingress.checkedSub s.offset

def log (s : ServoSample) : Act (Effect F) Unit := Act.emit (.recordOffsetFromMaster s.offset)

def beyondThreshold (s : ServoSample) (threshold : TimeInterval) : Checked Bool := do
  pure (threshold.lt (← s.offset.abs))

def drift (s other : ServoSample) (minDelta : TimeInterval) :
    Checked (ServoSampleOrdering F) := do
  let deltaIngress ← s.ingress.sub other.ingress
  let deltaOffset ← s.offset.sub other.offset
  if deltaIngress.le (← TimeInterval.new 0 0) then pure .outOfOrder
  else if (← deltaIngress.abs).lt minDelta then pure .inOrderButLowDelta
  else pure (.inOrder ⟨F64.div deltaOffset.asF64Seconds deltaIngress.asF64Seconds⟩)

end ServoSample

def ServoThreshold.exceededBy (t : ServoThreshold) (sample : ServoSample) : Checked Bool :=
  match t with
  | .disabled => pure false
  | .enabled t => if TimeInterval.zero.lt t then sample.beyondThreshold t else pure false

structure StepPolicy where
  initialThreshold : Option ServoThreshold
  threshold : ServoThreshold

namespace StepPolicy

def new (initial threshold : ServoThreshold) : StepPolicy := ⟨some initial, threshold⟩

/-- The master estimate as a step decision. -/
def estimateDecision (sample : ServoSample) : Checked ServoStepDecision := do
  match ← sample.masterEstimate with
  | some ts => pure (.stepTo ts)
  | none => pure .noStep

/-- The initial threshold is taken by the first sample, whether or not it is exceeded. -/
def shouldStep (p : StepPolicy) (sample : ServoSample) :
    Checked (StepPolicy × ServoStepDecision) := do
  let initially ← match p.initialThreshold with
    | some t => t.exceededBy sample
    | none => pure false
  let p := { p with initialThreshold := none }
  if initially then pure (p, ← estimateDecision sample)
  else if ← p.threshold.exceededBy sample then pure (p, ← estimateDecision sample)
  else pure (p, .noStep)

end StepPolicy

structure ServoDriftEstimate (F : Type) where
  sample : Option ServoSample
  min : Drift F
  max : Drift F
  minDelta : TimeInterval

namespace ServoDriftEstimate

def new (min max : Drift F) (minDelta : TimeInterval) : ServoDriftEstimate F :=
  ⟨none, min, max, minDelta⟩

def estimate (e : ServoDriftEstimate F) (sample : ServoSample) :
    Checked (ServoDriftEstimate F × Option (Drift F)) := do
  match e.sample with
  | some prev =>
    match ← sample.drift prev e.minDelta with
    | .inOrder drift => do
      let clamped ← Drift.clamp drift e.min e.max
      pure ({ e with sample := some sample }, some clamped)
    | .inOrderButLowDelta => pure (e, none)
    | .outOfOrder => pure ({ e with sample := none }, none)
  | none => pure ({ e with sample := some sample }, none)

def reset (e : ServoDriftEstimate F) : ServoDriftEstimate F := { e with sample := none }

end ServoDriftEstimate

structure PiLoop (F : Type) where
  kp : F
  ki : F
  integral : F

namespace PiLoop

def new (kp ki : F) : PiLoop F := ⟨kp, ki, F64.ofInt 0⟩

def feed (p : PiLoop F) (error : F) : Act (Effect F) (PiLoop F) := do
  let integral := F64.add p.integral error
  let rate := F64.sub (F64.sub (F64.ofInt 1) (F64.mul p.kp error)) (F64.mul p.ki integral)
  Act.emit (.adjust rate)
  pure { p with integral := integral }

def reset (p : PiLoop F) : PiLoop F := { p with integral := F64.ofInt 0 }

end PiLoop

structure PiServo (F : Type) where
  stepPolicy : StepPolicy
  driftEstimate : ServoDriftEstimate F
  piLoop : PiLoop F
  state : ServoState

namespace PiServo

def new (stepPolicy : StepPolicy) (driftEstimate : ServoDriftEstimate F) (piLoop : PiLoop F) :
    PiServo F :=
  ⟨stepPolicy, driftEstimate, piLoop, .unlocked⟩

/-- A step of the clock restarts the calibration. -/
def step (s : PiServo F) (sample : ServoSample) :
    Act (Effect F) (PiServo F × Option ServoState) := do
  let (policy, decision) ← Act.lift (s.stepPolicy.shouldStep sample)
  let s := { s with stepPolicy := policy }
  match decision with
  | .stepTo ts => do
    Act.emit (.step ts)
    pure ({ s with piLoop := s.piLoop.reset, driftEstimate := s.driftEstimate.reset },
      some .unlocked)
  | .noStep => pure (s, none)

def calibrate (s : PiServo F) (sample : ServoSample) :
    Act (Effect F) (PiServo F × ServoState) := do
  let (estimate, drift) ← Act.lift (s.driftEstimate.estimate sample)
  match drift with
  | none => pure ({ s with driftEstimate := estimate }, .calibrating)
  | some d => do
    Act.emit (.adjust d.asRate)
    pure ({ s with driftEstimate := estimate.reset }, .locked)

def feed (s : PiServo F) (sample : ServoSample) : Act (Effect F) (PiServo F × ServoState) := do
  sample.log
  let (s, stepped) ← s.step sample
  match stepped with
  | some state => pure ({ s with state := state }, state)
  | none => do
    let (s, state) ← match s.state with
      | .unlocked | .calibrating => s.calibrate sample
      | .locked => do
        let piLoop ← s.piLoop.feed sample.offset.asF64Seconds
        pure ({ s with piLoop := piLoop }, ServoState.locked)
    pure ({ s with state := state }, state)

end PiServo

def SteppingServo.feed (sample : ServoSample) : Act (Effect F) ServoState := do
  sample.log
  match ← Act.lift sample.masterEstimate with
  | some ts => do
    Act.emit (.step ts)
    pure .locked
  | none => pure .unlocked

inductive Servo (F : Type) where
  | stepping
  | pi (servo : PiServo F)

def Servo.feed (servo : Servo F) (sample : ServoSample) :
    Act (Effect F) (Servo F × ServoState) :=
  match servo with
  | .stepping => do
    let state ← SteppingServo.feed sample
    pure (.stepping, state)
  | .pi s => do
    let (s, state) ← s.feed sample
    pure (.pi s, state)

structure PiServoConfig (F : Type) where
  firstStepThreshold : ServoThreshold
  stepThreshold : ServoThreshold
  driftMin : Drift F
  driftMax : Drift F
  driftUpdateInterval : TimeInterval
  kp : F
  ki : F

inductive ServoConfig (F : Type) where
  | stepping
  | pi (config : PiServoConfig F)

def ServoConfig.servo : ServoConfig F → Servo F
  | stepping => .stepping
  | pi config => .pi (PiServo.new
      (StepPolicy.new config.firstStepThreshold config.stepThreshold)
      (ServoDriftEstimate.new config.driftMin config.driftMax config.driftUpdateInterval)
      (PiLoop.new config.kp config.ki))

/-- Calls of the servo on its metrics and the local clock. -/
def Effect.ByServo : Effect F → Prop
  | .recordOffsetFromMaster _ => True
  | .step _ => True
  | .adjust _ => True
  | _ => False

/-- Calls on the servo, its metrics and the local clock. -/
def Effect.OnClock : Effect F → Prop
  | .servoFeed _ => True
  | .recordOffsetFromMaster _ => True
  | .step _ => True
  | .adjust _ => True
  | _ => False

omit [F64 F] in
theorem Effect.ByServo.onClock (e : Effect F) (h : e.ByServo) : e.OnClock := by
  cases e <;> trivial

namespace PiServo

theorem step_only (s : PiServo F) (sample : ServoSample) : (s.step sample).Only Effect.ByServo := by
  refine Act.only_bind (Act.only_lift _) fun a => ?_
  obtain ⟨policy, decision⟩ := a
  cases decision with
  | noStep => exact Act.only_pure _
  | stepTo ts => exact Act.only_bind (Act.only_emit trivial) fun _ => Act.only_pure _

theorem calibrate_only (s : PiServo F) (sample : ServoSample) :
    (s.calibrate sample).Only Effect.ByServo := by
  refine Act.only_bind (Act.only_lift _) fun a => ?_
  obtain ⟨estimate, drift⟩ := a
  cases drift with
  | none => exact Act.only_pure _
  | some d => exact Act.only_bind (Act.only_emit trivial) fun _ => Act.only_pure _

theorem feed_only (s : PiServo F) (sample : ServoSample) : (s.feed sample).Only Effect.ByServo := by
  refine Act.only_bind (Act.only_emit trivial) fun _ => ?_
  refine Act.only_bind (s.step_only sample) fun a => ?_
  obtain ⟨t, stepped⟩ := a
  cases stepped with
  | some state => exact Act.only_pure _
  | none =>
    dsimp only
    cases t.state with
    | unlocked => exact Act.only_bind (t.calibrate_only sample) fun _ => Act.only_pure _
    | calibrating => exact Act.only_bind (t.calibrate_only sample) fun _ => Act.only_pure _
    | locked =>
      refine Act.only_bind ?_ fun _ => Act.only_pure _
      exact Act.only_bind (Act.only_emit trivial) fun _ => Act.only_pure _

end PiServo

/-- A servo calls nothing but its metrics and the clock. -/
theorem Servo.feed_only (servo : Servo F) (sample : ServoSample) :
    (servo.feed sample).Only Effect.ByServo := by
  cases servo with
  | pi s => exact Act.only_bind (s.feed_only sample) fun _ => Act.only_pure _
  | stepping =>
    refine Act.only_bind ?_ fun _ => Act.only_pure _
    refine Act.only_bind (Act.only_emit trivial) fun _ => ?_
    refine Act.only_bind (Act.only_lift _) fun ts => ?_
    cases ts with
    | none => exact Act.only_pure _
    | some ts => exact Act.only_bind (Act.only_emit trivial) fun _ => Act.only_pure _

end Rptp
