import Mathlib.Tactic.NormNum
import Rptp.Clock.ServoRun
import Rptp.Daemon.VirtualClock
import Rptp.Machine.Recurrence

/-! # A clock under the discipline of its servo

The servo of a port adjusts the virtual clock whose readings it was fed. While the servo is locked,
three neighbouring offsets from the master obey a recurrence of second order, up to what the
measurements, the delays of the host and the rounding of the clock contribute. The integral of the
loop and the frequency of the master drop out of it. Gains for which the recurrence is stable bring
the clock to the master.
-/

namespace Rptp

open Machine

/-- A sample for the servo: the instant of the ingress, the offset that was measured, and the
instants at which an adjustment reads the clock and starts it again. -/
structure Measurement where
  sampled : ℕ
  offset : TimeInterval
  adjusted : ℕ
  restarted : ℕ

structure DisciplinedClock where
  servo : PiServo ℚ
  clock : VirtualClock ℚ

/-- What the calls of the servo do to the clock. -/
def VirtualClock.obey (adjusted restarted : ℕ) (c : VirtualClock ℚ) :
    Effect ℚ → Checked (VirtualClock ℚ)
  | .step ts => pure (c.step adjusted ts)
  | .adjust rate => c.adjust adjusted restarted rate
  | _ => pure c

namespace DisciplinedClock

/-- The clock stamps the ingress, and the servo is fed. -/
def measure (w : DisciplinedClock) (m : Measurement) : Act (Effect ℚ) DisciplinedClock := do
  let ingress ← Act.lift (w.clock.now m.sampled)
  let ((servo, _), calls) ← Act.observe (w.servo.feed ⟨ingress, m.offset⟩)
  let clock ← Act.lift (calls.foldlM (VirtualClock.obey m.adjusted m.restarted) w.clock)
  pure ⟨servo, clock⟩

/-- How far the clock is ahead of the master when the sample is taken, in nanoseconds. -/
def ahead (master : ℕ → ℚ) (w : DisciplinedClock) (m : Measurement) : ℚ :=
  match w.clock.now m.sampled with
  | .ok reading => reading.ns - master m.sampled
  | .error _ => 0

end DisciplinedClock

/-- A run of `n + 1` samples that begins with a locked servo of the given gains. -/
structure LockedRun (kp ki : ℚ) (n : ℕ) where
  world : ℕ → DisciplinedClock
  sample : ℕ → Measurement
  calls : ℕ → List (Effect ℚ)
  locked : (world 0).servo.state = .locked
  proportional : (world 0).servo.piLoop.kp = kp
  integral : (world 0).servo.piLoop.ki = ki
  returns : ∀ k ≤ n, ((world k).measure (sample k)).Returns (world (k + 1)) (calls k)

namespace LockedRun

variable {kp ki : ℚ} {n : ℕ}

/-- How far the clock is ahead of the master at each of the samples. -/
def ahead (master : ℕ → ℚ) (r : LockedRun kp ki n) (k : ℕ) : ℚ :=
  (r.world k).ahead master (r.sample k)

/-- Samples are taken about once in a period, in which the master advances by about the same time.
The servo is fed soon, and what it is fed is about right. -/
structure Steady (master : ℕ → ℚ) (period advance ε : ℚ) (r : LockedRun kp ki n) : Prop where
  started : (r.world 0).clock.start ≤ (r.sample 0).sampled
  ordered : ∀ k ≤ n, (r.sample k).sampled ≤ (r.sample k).adjusted ∧
    (r.sample k).adjusted ≤ (r.sample k).restarted ∧
    (r.sample k).restarted ≤ (r.sample (k + 1)).sampled
  soon : ∀ k ≤ n, ((r.sample k).restarted : ℚ) - (r.sample k).sampled ≤ ε
  period : ∀ k ≤ n, |((r.sample (k + 1)).sampled : ℚ) - (r.sample k).sampled - period| ≤ ε
  advance : ∀ k ≤ n,
    |master (r.sample (k + 1)).sampled - master (r.sample k).sampled - advance| ≤ ε
  measured : ∀ k ≤ n, |((r.sample k).offset.ns : ℚ) - r.ahead master k| ≤ ε

/-- The servo makes no step, its rates are between zero and two, and the clock stays in its range. -/
structure Moderate (r : LockedRun kp ki n) : Prop where
  stepless : ∀ k ≤ n, ∀ e ∈ r.calls k, e.isStep = false
  rates : ∀ k ≤ n + 1, 0 ≤ (r.world k).clock.rate ∧ (r.world k).clock.rate ≤ 2
  range : ∀ k ≤ n, (r.world k).clock.ts.ns + (r.world k).clock.elapsed (r.sample k).adjusted <
    2 ^ 48 * 1000000000
  last : (r.world (n + 1)).clock.ts.ns +
    (r.world (n + 1)).clock.elapsed (r.sample (n + 1)).sampled < 2 ^ 48 * 1000000000

end LockedRun

namespace VirtualClock

variable {c : VirtualClock ℚ} {instant later : ℕ}

/-- Within its range the clock reads its base and the elapsed time, cut to nanoseconds. -/
theorem now_inRange (hrate : 0 ≤ c.rate)
    (hrange : c.ts.ns + c.elapsed instant < 2 ^ 48 * 1000000000) :
    ∃ reading, c.now instant = .ok reading ∧ reading.ns = c.ts.ns + ⌊c.elapsed instant⌋ := by
  have hbehind : Behind c ⟨c.start, c.ts.ns, c.rate, 0⟩ := ⟨rfl, rfl, hrate, le_rfl, by simp⟩
  obtain ⟨reading, hnow, hns, -⟩ := hbehind.now hrange
  exact ⟨reading, hnow, hns⟩

theorem elapsed_mono (hrate : 0 ≤ c.rate) (h : instant ≤ later) :
    c.elapsed instant ≤ c.elapsed later := by
  refine mul_le_mul_of_nonneg_right ?_ hrate
  exact_mod_cast Nat.sub_le_sub_right h c.start

theorem elapsed_sub (hstart : c.start ≤ instant) (h : instant ≤ later) :
    c.elapsed later - c.elapsed instant = ((later : ℚ) - instant) * c.rate := by
  unfold elapsed
  rw [Nat.cast_sub hstart, Nat.cast_sub (hstart.trans h)]
  ring

end VirtualClock

namespace DisciplinedClock

variable {w w' : DisciplinedClock} {m : Measurement} {l : List (Effect ℚ)}

/-- What a sample does to a clock whose servo is locked and does not step. -/
structure Followed (w : DisciplinedClock) (m : Measurement) (w' : DisciplinedClock) : Prop where
  state : w'.servo.state = .locked
  kp : w'.servo.piLoop.kp = w.servo.piLoop.kp
  ki : w'.servo.piLoop.ki = w.servo.piLoop.ki
  integral : w'.servo.piLoop.integral = w.servo.piLoop.integral + m.offset.ns / 1000000000
  rate : w'.clock.rate = 1 - w.servo.piLoop.kp * (m.offset.ns / 1000000000) -
    w.servo.piLoop.ki * w'.servo.piLoop.integral
  start : w'.clock.start = m.restarted
  base : w'.clock.ts.ns = w.clock.ts.ns + ⌊w.clock.elapsed m.adjusted⌋

theorem followed (h : (w.measure m).Returns w' l) (hstate : w.servo.state = .locked)
    (hstepless : ∀ e ∈ l, e.isStep = false) (hrate : 0 ≤ w.clock.rate)
    (hrange : w.clock.ts.ns + w.clock.elapsed m.adjusted < 2 ^ 48 * 1000000000) :
    w.Followed m w' := by
  obtain ⟨ingress, -, hrest⟩ := Act.returns_lift_bind.mp h
  obtain ⟨⟨servo, state⟩, calls, l₂, hfeed, hclock, rfl⟩ := Act.returns_observe_bind.mp hrest
  obtain ⟨clock, hcalls, hpure⟩ := Act.returns_lift_bind.mp hclock
  obtain ⟨rfl, rfl⟩ := Act.returns_pure.mp hpure
  obtain ⟨hfed, -⟩ := PiServo.feed_fed hfeed
  cases hfed with
  | stepped ts hsteps hts =>
    have hstep := hstepless (.step ts) (by simp)
    cases hstep
  | extended e hsteps hunlocked he => exact absurd hstate hunlocked
  | locked e d hsteps hunlocked he => exact absurd hstate hunlocked
  | followed hsteps _ =>
    obtain ⟨reading, hnow, hns⟩ := VirtualClock.now_inRange hrate hrange
    have hadjust : VirtualClock.obey m.adjusted m.restarted w.clock
        (.adjust (w.servo.piLoop.rate m.offset.asF64Seconds)) =
        .ok ⟨m.restarted, reading, w.servo.piLoop.rate m.offset.asF64Seconds⟩ := by
      rw [VirtualClock.obey, VirtualClock.adjust, hnow]
      rfl
    have hfold : .ok clock = VirtualClock.obey m.adjusted m.restarted w.clock
        (.adjust (w.servo.piLoop.rate m.offset.asF64Seconds)) := by
      rw [← hcalls, List.foldlM_cons]
      change VirtualClock.obey _ _ w.clock _ >>= pure = _
      rw [bind_pure]
    rw [hadjust] at hfold
    cases hfold
    exact ⟨rfl, rfl, rfl, rfl, rfl, rfl, hns⟩

theorem ahead_eq {master : ℕ → ℚ} (hrate : 0 ≤ w.clock.rate)
    (hrange : w.clock.ts.ns + w.clock.elapsed m.sampled < 2 ^ 48 * 1000000000) :
    w.ahead master m =
      w.clock.ts.ns + (⌊w.clock.elapsed m.sampled⌋ : ℤ) - master m.sampled := by
  obtain ⟨reading, hnow, hns⟩ := VirtualClock.now_inRange hrate hrange
  unfold ahead
  rw [hnow]
  change (reading.ns : ℚ) - _ = _
  rw [hns, Int.cast_add]

theorem Followed.gains {master : ℕ → ℚ} {period advance ε : ℚ} {next : Measurement}
    (h : w.Followed m w') (hε : 1 ≤ ε) (hstart : w.clock.start ≤ m.sampled)
    (hsampled : m.sampled ≤ m.adjusted) (hadjusted : m.adjusted ≤ m.restarted)
    (hrestarted : m.restarted ≤ next.sampled) (hsoon : (m.restarted : ℚ) - m.sampled ≤ ε)
    (hperiod : |(next.sampled : ℚ) - m.sampled - period| ≤ ε)
    (hadvance : |master next.sampled - master m.sampled - advance| ≤ ε)
    (hrate : 0 ≤ w.clock.rate ∧ w.clock.rate ≤ 2) (hrate' : 0 ≤ w'.clock.rate ∧ w'.clock.rate ≤ 2)
    (hahead : w.ahead master m =
      w.clock.ts.ns + (⌊w.clock.elapsed m.sampled⌋ : ℤ) - master m.sampled)
    (hahead' : w'.ahead master next =
      w'.clock.ts.ns + (⌊w'.clock.elapsed next.sampled⌋ : ℤ) - master next.sampled) :
    |w'.ahead master next - w.ahead master m - (period * w'.clock.rate - advance)| ≤ 6 * ε := by
  -- Until it is adjusted, the clock runs on at its old rate.
  have hlag : (⌊w.clock.elapsed m.sampled⌋ : ℚ) ≤ ⌊w.clock.elapsed m.adjusted⌋ ∧
      (⌊w.clock.elapsed m.adjusted⌋ : ℚ) ≤ ⌊w.clock.elapsed m.sampled⌋ + (2 * ε + 1) := by
    have hdiff := VirtualClock.elapsed_sub hstart hsampled
    have hle : ((m.adjusted : ℚ) - m.sampled) * w.clock.rate ≤ ε * 2 := by
      have hcast : (m.sampled : ℚ) ≤ m.adjusted := by exact_mod_cast hsampled
      have hcast' : (m.adjusted : ℚ) ≤ m.restarted := by exact_mod_cast hadjusted
      exact mul_le_mul (by linarith) hrate.2 hrate.1 (by linarith)
    have hmono : (⌊w.clock.elapsed m.sampled⌋ : ℚ) ≤ ⌊w.clock.elapsed m.adjusted⌋ := by
      exact_mod_cast Int.floor_le_floor (VirtualClock.elapsed_mono hrate.1 hsampled)
    have hfloor := Int.floor_le (w.clock.elapsed m.adjusted)
    have hfloor' := Int.lt_floor_add_one (w.clock.elapsed m.sampled)
    exact ⟨hmono, by linarith⟩
  -- Afterwards it runs at its new rate for about a period.
  have hrun : |w'.clock.elapsed next.sampled - period * w'.clock.rate + ε| ≤ 3 * ε := by
    have helapsed : w'.clock.elapsed next.sampled =
        ((next.sampled : ℚ) - m.restarted) * w'.clock.rate := by
      rw [VirtualClock.elapsed, h.start, Nat.cast_sub hrestarted]
    have hcast : (m.sampled : ℚ) ≤ m.restarted := by exact_mod_cast hsampled.trans hadjusted
    obtain ⟨hlow, hhigh⟩ := abs_le.mp hperiod
    have hupper := mul_le_mul_of_nonneg_right
      (by linarith : (next.sampled : ℚ) - m.restarted - period ≤ ε) hrate'.1
    have hlower := mul_le_mul_of_nonneg_right
      (by linarith : -(2 * ε) ≤ (next.sampled : ℚ) - m.restarted - period) hrate'.1
    have hscaled := mul_le_mul_of_nonneg_left hrate'.2 (by linarith : 0 ≤ ε)
    rw [helapsed, abs_le]
    constructor <;> linarith
  have hbase : (w'.clock.ts.ns : ℚ) = w.clock.ts.ns + ⌊w.clock.elapsed m.adjusted⌋ := by
    rw [h.base]
    push_cast
    rfl
  have hfloor := Int.floor_le (w'.clock.elapsed next.sampled)
  have hfloor' := Int.lt_floor_add_one (w'.clock.elapsed next.sampled)
  rw [hahead, hahead', hbase]
  rw [abs_le] at hrun hadvance ⊢
  constructor <;> linarith

end DisciplinedClock

namespace LockedRun

variable {kp ki period advance ε : ℚ} {master : ℕ → ℚ} {n : ℕ} {r : LockedRun kp ki n}

/-- The servo keeps its lock and its gains, and every sample is followed. -/
theorem Moderate.followed (h : r.Moderate) : ∀ k ≤ n,
    (r.world k).Followed (r.sample k) (r.world (k + 1)) ∧
      (r.world k).servo.piLoop.kp = kp ∧ (r.world k).servo.piLoop.ki = ki := by
  have hlocked : ∀ k ≤ n, (r.world k).servo.state = .locked →
      (r.world k).Followed (r.sample k) (r.world (k + 1)) :=
    fun k hk hstate => DisciplinedClock.followed (r.returns k hk) hstate (h.stepless k hk)
      (h.rates k (hk.trans n.le_succ)).1 (h.range k hk)
  intro k
  induction k with
  | zero => exact fun hk => ⟨hlocked 0 hk r.locked, r.proportional, r.integral⟩
  | succ k ih =>
    intro hk
    obtain ⟨hprev, hkp, hki⟩ := ih (Nat.le_of_succ_le hk)
    exact ⟨hlocked _ hk hprev.state, hprev.kp.trans hkp, hprev.ki.trans hki⟩

theorem Moderate.ahead_eq (h : r.Moderate) (hsteady : r.Steady master period advance ε) (k : ℕ)
    (hk : k ≤ n + 1) :
    (r.world k).ahead master (r.sample k) = (r.world k).clock.ts.ns +
      (⌊(r.world k).clock.elapsed (r.sample k).sampled⌋ : ℤ) - master (r.sample k).sampled := by
  have hrate := (h.rates k hk).1
  refine DisciplinedClock.ahead_eq hrate ?_
  rcases Nat.lt_or_eq_of_le hk with hlt | rfl
  · have hk' := Nat.le_of_lt_succ hlt
    have hmono := VirtualClock.elapsed_mono hrate (hsteady.ordered k hk').1
    have hrange := h.range k hk'
    linarith
  · exact h.last

theorem Moderate.gains (h : r.Moderate) (hsteady : r.Steady master period advance ε) (hε : 1 ≤ ε)
    (k : ℕ) (hk : k ≤ n) : |r.ahead master (k + 1) - r.ahead master k -
      (period * (r.world (k + 1)).clock.rate - advance)| ≤ 6 * ε := by
  have hstart : (r.world k).clock.start ≤ (r.sample k).sampled := by
    cases k with
    | zero => exact hsteady.started
    | succ k =>
      have hk' := Nat.le_of_succ_le hk
      rw [(h.followed k hk').1.start]
      exact (hsteady.ordered k hk').2.2
  obtain ⟨hsampled, hadjusted, hrestarted⟩ := hsteady.ordered k hk
  have hk' : k + 1 ≤ n + 1 := Nat.succ_le_succ hk
  exact (h.followed k hk).1.gains hε hstart hsampled hadjusted hrestarted (hsteady.soon k hk)
    (hsteady.period k hk) (hsteady.advance k hk) (h.rates k (hk.trans n.le_succ)) (h.rates _ hk')
    (h.ahead_eq hsteady k (hk.trans n.le_succ)) (h.ahead_eq hsteady _ hk')

end LockedRun

/-- The gains of a loop that is fed once in a period, for which its recurrence is stable. -/
structure StableGains (kp ki period : ℚ) : Prop where
  proportional : 0 < kp * period
  integral : 0 < ki * period
  bound : (2 * kp + ki) * period < 4 * 1000000000

theorem StableGains.stableRoots {kp ki period : ℚ} (h : StableGains kp ki period) :
    StableRoots (2 - (kp + ki) * period / 1000000000) (1 - kp * period / 1000000000) := by
  obtain ⟨hp, hi, hbound⟩ := h
  constructor
  · have : 0 < kp * period / 1000000000 := by positivity
    linarith
  · rw [abs_lt]
    constructor
    · linarith
    · linarith

/-- The rates of two neighbouring periods differ by what the loop makes of their offsets, so that the
difference of the two gains on the master depends on the offsets only. -/
theorem ahead_recurrence {P Q ε x₀ x₁ x₂ o₀ o₁ g₀ g₁ : ℚ} (hP : 0 ≤ P) (hQ : 0 ≤ Q)
    (hbound : 2 * P + Q ≤ 4) (hε : 0 ≤ ε) (ho₀ : |o₀ - x₀| ≤ ε) (ho₁ : |o₁ - x₁| ≤ ε)
    (hg₀ : |x₁ - x₀ - g₀| ≤ 6 * ε) (hg₁ : |x₂ - x₁ - g₁| ≤ 6 * ε)
    (hg : g₁ - g₀ = -(P * (o₁ - o₀)) - Q * o₁) :
    |x₂ - ((2 - (P + Q)) * x₁ - (1 - P) * x₀)| ≤ 16 * ε := by
  rw [abs_le] at *
  have hP₀ := mul_le_mul_of_nonneg_left ho₀.1 hP
  have hP₀' := mul_le_mul_of_nonneg_left ho₀.2 hP
  have hPQ := mul_le_mul_of_nonneg_left ho₁.1 (add_nonneg hP hQ)
  have hPQ' := mul_le_mul_of_nonneg_left ho₁.2 (add_nonneg hP hQ)
  have hsum := mul_le_mul_of_nonneg_right hbound hε
  constructor <;> linarith

theorem LockedRun.Moderate.recurrence {kp ki period advance ε : ℚ} {master : ℕ → ℚ} {n : ℕ}
    {r : LockedRun kp ki n} (h : r.Moderate) (hsteady : r.Steady master period advance ε)
    (hε : 1 ≤ ε) (hgains : StableGains kp ki period) (k : ℕ) (hk : k < n) :
    |r.ahead master (k + 2) -
      ((2 - (kp + ki) * period / 1000000000) * r.ahead master (k + 1) -
        (1 - kp * period / 1000000000) * r.ahead master k)| ≤ 16 * ε := by
  obtain ⟨hfirst, hkp₀, hki₀⟩ := h.followed k hk.le
  obtain ⟨hsecond, hkp₁, hki₁⟩ := h.followed (k + 1) hk
  have hrates : period * (r.world (k + 2)).clock.rate - advance -
      (period * (r.world (k + 1)).clock.rate - advance) =
      -(kp * period / 1000000000 * ((r.sample (k + 1)).offset.ns - (r.sample k).offset.ns)) -
        ki * period / 1000000000 * (r.sample (k + 1)).offset.ns := by
    rw [hsecond.rate, hsecond.integral, hfirst.rate, hkp₀, hki₀, hkp₁, hki₁]
    ring
  have hsplit : (kp + ki) * period / 1000000000 =
      kp * period / 1000000000 + ki * period / 1000000000 := by ring
  have hp := hgains.proportional
  have hi := hgains.integral
  have hbound := hgains.bound
  rw [hsplit]
  exact ahead_recurrence (by positivity) (by positivity) (by linarith) (by linarith)
    (hsteady.measured k hk.le) (hsteady.measured (k + 1) hk) (h.gains hsteady hε k hk.le)
    (h.gains hsteady hε (k + 1) hk) hrates

/-- A locked PI servo on the virtual clock, with `f64` read as exact numbers. If the gains are stable
for the period, there are constants such that in every run without a step the square of the offset
from the master comes down geometrically to a multiple of `ε ^ 2`. Here `ε` bounds, in nanoseconds,
the errors of the measured offsets and the jitter of the samples, of the master and of the host.
Neither the integral at the start nor the frequency of the master plays a role. -/
theorem servo_settles {kp ki period : ℚ} (hgains : StableGains kp ki period) :
    ∃ ρ C D : ℚ, 0 ≤ ρ ∧ ρ < 1 ∧ 0 ≤ C ∧ 0 ≤ D ∧
      ∀ (n : ℕ) (r : LockedRun kp ki n) (master : ℕ → ℚ) (advance ε : ℚ), 1 ≤ ε →
        r.Steady master period advance ε → r.Moderate →
        r.ahead master (n + 1) ^ 2 ≤
          C * ρ ^ n * (r.ahead master 0 ^ 2 + r.ahead master 1 ^ 2) + D * ε ^ 2 := by
  obtain ⟨ρ, C, D, hρ, hρ', hC, hD, hsettles⟩ := hgains.stableRoots.recurrence_bounded
  refine ⟨ρ, C, D * 16 ^ 2, hρ, hρ', hC, by positivity, ?_⟩
  intro n r master advance ε hε hsteady hmoderate
  have hbounded := hsettles (r.ahead master) (16 * ε) n (hmoderate.recurrence hsteady hε hgains)
  rw [mul_pow, ← mul_assoc] at hbounded
  exact hbounded

/-- What a sample makes of a clock, with the calls. -/
def DisciplinedClock.after (w : DisciplinedClock) (m : Measurement) :
    DisciplinedClock × List (Effect ℚ) :=
  (w.measure m).run.toOption.getD (w, [])

theorem DisciplinedClock.returns_after {w : DisciplinedClock} {m : Measurement}
    (h : (w.measure m).run.toOption.isSome = true) :
    (w.measure m).Returns (w.after m).1 (w.after m).2 := by
  obtain ⟨r, hr⟩ := Option.isSome_iff_exists.mp h
  have hafter : w.after m = r := by
    rw [after, hr]
    rfl
  rw [hafter]
  exact Act.returns_of_toOption hr

/-- A locked servo with gains of a quarter, on a clock that reads 6 s. -/
def quarterClock : DisciplinedClock where
  servo := ⟨⟨none, .disabled⟩, .new ⟨-1 / 2⟩ ⟨1 / 2⟩ (spanOf 4), ⟨1 / 4, 1 / 4, 0⟩, .locked⟩
  clock := ⟨0, stampOf 6, 1⟩

/-- Samples every 2 s: the clock is ahead by a second at first, and then it is not. -/
def everyTwoSeconds : ℕ → Measurement
  | 0 => ⟨0, spanOf 1, 0, 0⟩
  | k + 1 => ⟨2000000000 * (k + 1), spanOf 0, 2000000000 * (k + 1), 2000000000 * (k + 1)⟩

def quarterRun : ℕ → DisciplinedClock × List (Effect ℚ)
  | 0 => quarterClock.after (everyTwoSeconds 0)
  | k + 1 => (quarterRun k).1.after (everyTwoSeconds (k + 1))

def quarterLocked : LockedRun (1 / 4) (1 / 4) 1 where
  world
    | 0 => quarterClock
    | k + 1 => (quarterRun k).1
  sample := everyTwoSeconds
  calls k := (quarterRun k).2
  locked := rfl
  proportional := rfl
  integral := rfl
  returns k hk := by
    rcases Nat.le_one_iff_eq_zero_or_eq_one.mp hk with rfl | rfl
    · exact DisciplinedClock.returns_after (by decide +kernel)
    · exact DisciplinedClock.returns_after (by decide +kernel)

/-- The time of the master, which reads 5 s at the start. -/
def quarterMaster (instant : ℕ) : ℚ := 5000000000 + instant

theorem quarterLocked_steady :
    quarterLocked.Steady quarterMaster 2000000000 2000000000 1 where
  started := le_rfl
  ordered k hk := by rcases Nat.le_one_iff_eq_zero_or_eq_one.mp hk with rfl | rfl <;> decide
  soon k hk := by rcases Nat.le_one_iff_eq_zero_or_eq_one.mp hk with rfl | rfl <;> decide +kernel
  period k hk := by rcases Nat.le_one_iff_eq_zero_or_eq_one.mp hk with rfl | rfl <;> decide +kernel
  advance k hk := by
    rcases Nat.le_one_iff_eq_zero_or_eq_one.mp hk with rfl | rfl <;> decide +kernel
  measured k hk := by
    rcases Nat.le_one_iff_eq_zero_or_eq_one.mp hk with rfl | rfl <;> decide +kernel

theorem quarterLocked_moderate : quarterLocked.Moderate where
  stepless k hk := by
    rcases Nat.le_one_iff_eq_zero_or_eq_one.mp hk with rfl | rfl <;> decide +kernel
  rates k hk := by
    rcases Nat.le_succ_iff.mp hk with hk | rfl
    · rcases Nat.le_one_iff_eq_zero_or_eq_one.mp hk with rfl | rfl <;> decide +kernel
    · decide +kernel
  range k hk := by
    rcases Nat.le_one_iff_eq_zero_or_eq_one.mp hk with rfl | rfl <;> decide +kernel
  last := by decide +kernel

/-- A second ahead at first, and half a second behind two samples later. -/
theorem servo_settles_quarter : ∃ ρ C D : ℚ, ρ < 1 ∧
    quarterLocked.ahead quarterMaster 0 = 1000000000 ∧
    quarterLocked.ahead quarterMaster 2 = -500000000 ∧
    quarterLocked.ahead quarterMaster 2 ^ 2 ≤ C * ρ ^ 1 *
      (quarterLocked.ahead quarterMaster 0 ^ 2 + quarterLocked.ahead quarterMaster 1 ^ 2) + D := by
  have hgains : StableGains (1 / 4) (1 / 4) 2000000000 := ⟨by norm_num, by norm_num, by norm_num⟩
  obtain ⟨ρ, C, D, -, hρ, -, -, hsettles⟩ := servo_settles hgains
  refine ⟨ρ, C, D, hρ, by decide +kernel, by decide +kernel, ?_⟩
  have hbound := hsettles 1 quarterLocked quarterMaster 2000000000 1 le_rfl quarterLocked_steady
    quarterLocked_moderate
  rwa [one_pow, mul_one] at hbound

end Rptp
