import Rptp.Clock.ServoRun

/-! # The sign of the calibration

A drift is what the local clock gains on its master per second. The loop slows a clock that is ahead,
whereas the calibration turns a gain into a rate above one, which adds to it.
-/

namespace Rptp

open Machine

/-- The rate slows a clock whose offset grew from `b` to `s`, and speeds one up whose offset shrank. -/
def Counteracts (b s : ServoSample) (rate : ℚ) : Prop :=
  (b.offset.ns < s.offset.ns → rate ≤ 1) ∧ (s.offset.ns < b.offset.ns → 1 ≤ rate)

namespace Drift

theorem clamp_eq {d lo hi c : Drift ℚ} (h : d.clamp lo hi = .ok c) :
    c.drift = min (max d.drift lo.drift) hi.drift := by
  obtain ⟨-, -, hret⟩ := Checked.bind_eq_ok.mp h
  cases hret
  simp only [F64.lt, decide_eq_true_eq]
  split_ifs with hlow hhigh hhigh
  · rw [max_eq_right hlow.le, min_eq_right hhigh.le]
  · rw [max_eq_right hlow.le, min_eq_left (not_lt.mp hhigh)]
  · rw [max_eq_left (not_lt.mp hlow), min_eq_right hhigh.le]
  · rw [max_eq_left (not_lt.mp hlow), min_eq_left (not_lt.mp hhigh)]

end Drift

namespace ServoSample

variable {b s : ServoSample} {minDelta : TimeInterval}

theorem secondsOf_eq (ns : ℤ) : (secondsOf ns : ℚ) = ns / 1000000000 := rfl

theorem driftFrom_pos (h : s.Follows b minDelta) (hgrew : b.offset.ns < s.offset.ns) :
    0 < (s.driftFrom b : Drift ℚ).drift := by
  have hoffset : (0 : ℚ) < ((s.offset.ns - b.offset.ns : ℤ) : ℚ) := by exact_mod_cast sub_pos.mpr hgrew
  have hingress : (0 : ℚ) < ((s.ingress.ns - b.ingress.ns : ℤ) : ℚ) := by exact_mod_cast h.later
  change (0 : ℚ) < secondsOf _ / secondsOf _
  rw [secondsOf_eq, secondsOf_eq]
  positivity

theorem driftFrom_neg (h : s.Follows b minDelta) (hshrank : s.offset.ns < b.offset.ns) :
    (s.driftFrom b : Drift ℚ).drift < 0 := by
  have hoffset : ((s.offset.ns - b.offset.ns : ℤ) : ℚ) < 0 := by exact_mod_cast sub_neg.mpr hshrank
  have hingress : (0 : ℚ) < ((s.ingress.ns - b.ingress.ns : ℤ) : ℚ) := by exact_mod_cast h.later
  change (secondsOf _ : ℚ) / secondsOf _ < 0
  rw [secondsOf_eq, secondsOf_eq]
  exact div_neg_of_neg_of_pos (div_neg_of_neg_of_pos hoffset (by norm_num)) (by positivity)

end ServoSample

/-- The loop slows a clock that is ahead and was not behind before. -/
theorem PiLoop.feed_slows (p : PiLoop ℚ) (error : ℚ) (hkp : 0 < p.kp) (hki : 0 ≤ p.ki)
    (hintegral : 0 ≤ p.integral) (herror : 0 < error) :
    ∃ p', (p.feed error).Returns p' [.adjust (p.rate error)] ∧ p.rate error < 1 := by
  refine ⟨_, rfl, ?_⟩
  change 1 - p.kp * error - p.ki * (p.integral + error) < 1
  have hproportional : 0 < p.kp * error := mul_pos hkp herror
  have hsum : 0 ≤ p.ki * (p.integral + error) := mul_nonneg hki (by linarith)
  linarith

/-- The rate that ends a calibration counteracts the drift exactly if the bounds leave no room for
the drift, so that the rate is one. -/
theorem calibration_counteracts_iff (servo servo' : PiServo ℚ) (b s : ServoSample)
    (l : List (Effect ℚ)) (hmin : servo.driftEstimate.min.drift ≤ 0)
    (hmax : 0 ≤ servo.driftEstimate.max.drift) (hb : servo.driftEstimate.sample = some b)
    (h : (servo.calibrate s).Returns (servo', .locked) l) :
    ∃ rate, l = [.adjust rate] ∧
      (Counteracts b s rate ↔
        (b.offset.ns < s.offset.ns → servo.driftEstimate.max.drift = 0) ∧
        (s.offset.ns < b.offset.ns → servo.driftEstimate.min.drift = 0)) := by
  rcases PiServo.calibrate_cases h with ⟨-, -, -, hstate, -⟩ | ⟨e, d, he, -, -, hl⟩
  · cases hstate
  · cases he with
    | drift b' d hb' hfollows hd =>
      rw [hb] at hb'
      cases hb'
      refine ⟨d.asRate, hl, ?_⟩
      have hrate : d.asRate = 1 + d.drift := rfl
      have hclamp := Drift.clamp_eq hd
      rw [Counteracts, hrate]
      refine and_congr (forall_congr' fun hgrew => ?_) (forall_congr' fun hshrank => ?_)
      · have hpos := ServoSample.driftFrom_pos hfollows hgrew
        rw [hclamp, max_eq_left (hmin.trans hpos.le), add_le_iff_nonpos_right, min_le_iff]
        constructor
        · rintro (hc | hc)
          · exact absurd hpos (not_lt.mpr hc)
          · exact le_antisymm hc hmax
        · exact fun hc => .inr hc.le
      · have hneg := ServoSample.driftFrom_neg hfollows hshrank
        rw [hclamp, le_add_iff_nonneg_right, le_min_iff, le_max_iff]
        constructor
        · rintro ⟨hc | hc, -⟩
          · exact absurd hneg (not_lt.mpr hc)
          · exact le_antisymm hmin hc
        · exact fun hc => ⟨.inr hc.ge, hmax⟩

/-- The rates among the calls. -/
def ratesOf (calls : List (Effect ℚ)) : List ℚ :=
  calls.filterMap fun
    | .adjust rate => some rate
    | _ => none

theorem PiServo.calibrate_locks (servo : PiServo ℚ) (s : ServoSample) (rate : ℚ)
    (h : (servo.calibrate s).run.toOption.map (fun r => (r.1.2, ratesOf r.2)) = some (.locked, [rate])) :
    ∃ servo', (servo.calibrate s).Returns (servo', .locked) [.adjust rate] := by
  obtain ⟨⟨⟨servo', state⟩, l⟩, hreturns, hpair⟩ := Option.map_eq_some_iff.mp h
  obtain ⟨hstate, hrates⟩ := Prod.mk.inj hpair
  have hcalibrate := Act.returns_of_toOption hreturns
  rcases calibrate_cases hcalibrate with ⟨-, -, -, hother, -⟩ | ⟨e, d, -, -, -, rfl⟩
  · dsimp only at hstate
    rw [hother] at hstate
    cases hstate
  · dsimp only at hstate hrates
    have hrate : d.asRate = rate := List.head_eq_of_cons_eq hrates
    rw [hstate, hrate] at hcalibrate
    exact ⟨servo', hcalibrate⟩

/-- A servo that calibrates from a sample at 0 s without an offset, up to the given gain. -/
def calibratingServo (gain : ℚ) : PiServo ℚ :=
  { tenSecondConfig.fresh with
    driftEstimate := ⟨some (sampleAt 0 0), ⟨-1 / 2⟩, ⟨gain⟩, spanOf 4⟩
    state := .calibrating }

/-- A clock that gains 1 s in 5 s is calibrated to run faster by a fifth, whereas the loop slows it. -/
theorem calibration_amplifies :
    ∃ (servo servo' : PiServo ℚ) (b s : ServoSample) (piLoop : PiLoop ℚ) (rate slower : ℚ),
      servo.driftEstimate.min.drift ≤ 0 ∧ 0 ≤ servo.driftEstimate.max.drift ∧
      servo.driftEstimate.sample = some b ∧
      (servo.calibrate s).Returns (servo', .locked) [.adjust rate] ∧ ¬ Counteracts b s rate ∧
      (servo.piLoop.feed s.offset.asF64Seconds).Returns piLoop [.adjust slower] ∧ slower < 1 := by
  obtain ⟨servo', hcalibrate⟩ := PiServo.calibrate_locks (calibratingServo (1 / 2)) (sampleAt 5 1)
    (6 / 5) (by decide +kernel)
  obtain ⟨piLoop, hloop, hslower⟩ := PiLoop.feed_slows (calibratingServo (1 / 2)).piLoop
    (sampleAt 5 1).offset.asF64Seconds (by decide +kernel) (by decide +kernel) (by decide +kernel)
    (by decide +kernel)
  refine ⟨calibratingServo (1 / 2), servo', sampleAt 0 0, sampleAt 5 1, piLoop, 6 / 5, _,
    by decide +kernel, by decide +kernel, rfl, hcalibrate, fun hcounteracts => ?_, hloop, hslower⟩
  have hgrew : (sampleAt 0 0).offset.ns < (sampleAt 5 1).offset.ns := by decide
  exact absurd (hcounteracts.1 hgrew) (by norm_num)

/-- Without room for a gain, the same calibration leaves the rate at one. -/
theorem calibration_counteracts_bounded : ∃ servo' rate,
    ((calibratingServo 0).calibrate (sampleAt 5 1)).Returns (servo', .locked) [.adjust rate] ∧
      Counteracts (sampleAt 0 0) (sampleAt 5 1) rate := by
  obtain ⟨servo', hcalibrate⟩ := PiServo.calibrate_locks (calibratingServo 0) (sampleAt 5 1) 1
    (by decide +kernel)
  obtain ⟨rate, hl, hiff⟩ := calibration_counteracts_iff (calibratingServo 0) servo' (sampleAt 0 0)
    (sampleAt 5 1) _ (by decide +kernel) le_rfl rfl hcalibrate
  rw [hl] at hcalibrate
  exact ⟨servo', rate, hcalibrate, hiff.mpr ⟨fun _ => rfl, fun hc => absurd hc (by decide)⟩⟩

end Rptp
