import Mathlib.Algebra.Order.Floor.Ring
import Mathlib.Data.Rat.Floor
import Rptp.Clock.Servo
import Rptp.Machine.Run
import Rptp.Time.Arithmetic

/-! # The virtual clock of the daemon

The daemon disciplines a clock of its own: a base timestamp, the instant at which it was set, and a
rate. A read adds the elapsed time at the given rate, cut to nanoseconds, and an adjustment makes the
current reading the base of the next one. With `f64` read as exact numbers the clock follows the one
that cuts nothing.
-/

namespace Rptp

open Machine

/-- The casts of `f64` that the clock uses: the remainder has the sign of its first argument, and the
casts to integers cut towards zero and saturate. -/
class F64Cast (F : Type) extends F64 F where
  rem : F → F → F
  asI64 : F → ℤ
  asU32 : F → ℕ

/-- Cut towards zero. -/
def truncate (x : ℚ) : ℤ := if 0 ≤ x then ⌊x⌋ else ⌈x⌉

instance : F64Cast ℚ where
  rem a b := a - b * truncate (a / b)
  asI64 x := max (-2 ^ 63) (min (2 ^ 63 - 1) (truncate x))
  asU32 x := (min (2 ^ 32 - 1) (truncate x)).toNat

/-- The instants are nanoseconds of the monotonic clock of the host. -/
structure VirtualClock (F : Type) where
  start : ℕ
  ts : TimeStamp
  rate : F

namespace VirtualClock

section Definitions

variable {F : Type} [F64Cast F]

def new (startTs : TimeStamp) (rate : F) (instant : ℕ) : VirtualClock F := ⟨instant, startTs, rate⟩

/-- A sum that is out of range is given up for the base. -/
def now (instant : ℕ) (c : VirtualClock F) : Checked TimeStamp := do
  let dtNanos := F64.mul (F64.ofInt (instant - c.start : ℕ)) c.rate
  let dtSecs := F64Cast.asI64 (F64.div dtNanos (F64.ofInt 1000000000))
  let dtRemNanos := F64Cast.asU32 (F64Cast.rem dtNanos (F64.ofInt 1000000000))
  let interval ← TimeInterval.new dtSecs dtRemNanos
  let sum ← c.ts.checkedAdd interval
  pure (sum.getD c.ts)

def step (instant : ℕ) (target : TimeStamp) (c : VirtualClock F) : VirtualClock F :=
  { c with start := instant, ts := target }

/-- The clock is read first and started again some time after. -/
def adjust (instant restart : ℕ) (rate : F) (c : VirtualClock F) : Checked (VirtualClock F) := do
  let current ← c.now instant
  pure ⟨restart, current, rate⟩

end Definitions

section Exact

variable (c : VirtualClock ℚ) (instant : ℕ)

/-- What has elapsed since the base was set. -/
def elapsed : ℚ := (instant - c.start : ℕ) * c.rate

theorem truncate_of_nonneg {x : ℚ} (h : 0 ≤ x) : truncate x = ⌊x⌋ := if_pos h

theorem floor_split {x : ℚ} (h : 0 ≤ x) :
    0 ≤ ⌊x / 1000000000⌋ ∧ 0 ≤ x - 1000000000 * (⌊x / 1000000000⌋ : ℚ) ∧
      ⌊x - 1000000000 * (⌊x / 1000000000⌋ : ℚ)⌋ = ⌊x⌋ - 1000000000 * ⌊x / 1000000000⌋ ∧
      ⌊x⌋ < 1000000000 * ⌊x / 1000000000⌋ + 1000000000 := by
  have hle : (⌊x / 1000000000⌋ : ℚ) ≤ x / 1000000000 := Int.floor_le _
  have hlt : x / 1000000000 < (⌊x / 1000000000⌋ : ℚ) + 1 := Int.lt_floor_add_one _
  refine ⟨Int.floor_nonneg.mpr (by positivity), by linarith, ?_, ?_⟩
  · have hcast : (1000000000 : ℚ) * (⌊x / 1000000000⌋ : ℚ) =
        ((1000000000 * ⌊x / 1000000000⌋ : ℤ) : ℚ) := by push_cast; rfl
    rw [hcast, Int.floor_sub_intCast]
  · rw [Int.floor_lt]
    push_cast
    linarith

/-- A read is exact, cut to nanoseconds. -/
theorem now_eq (hrate : 0 ≤ c.rate) :
    c.now instant = .ok ((TimeStamp.ofNs (c.ts.ns + ⌊c.elapsed instant⌋)).getD c.ts) := by
  have hx : 0 ≤ c.elapsed instant := mul_nonneg (Nat.cast_nonneg _) hrate
  obtain ⟨hsecs, hrem, hfloor, hlt⟩ := floor_split hx
  have hle : 1000000000 * ⌊c.elapsed instant / 1000000000⌋ ≤ ⌊c.elapsed instant⌋ := by
    have hnonneg := Int.floor_nonneg.mpr hrem
    omega
  have hi64 : F64Cast.asI64 (F64.div (F64.mul (F64.ofInt (instant - c.start : ℕ)) c.rate)
      (F64.ofInt 1000000000)) = min (2 ^ 63 - 1) ⌊c.elapsed instant / 1000000000⌋ := by
    change max (-2 ^ 63) (min (2 ^ 63 - 1) (truncate (c.elapsed instant / 1000000000))) = _
    rw [truncate_of_nonneg (by positivity)]
    omega
  have hu32 : F64Cast.asU32 (F64Cast.rem (F64.mul (F64.ofInt (instant - c.start : ℕ)) c.rate)
      (F64.ofInt 1000000000)) =
      (⌊c.elapsed instant⌋ - 1000000000 * ⌊c.elapsed instant / 1000000000⌋).toNat := by
    change (min (2 ^ 32 - 1) (truncate (c.elapsed instant - 1000000000 *
      (truncate (c.elapsed instant / 1000000000) : ℚ)))).toNat = _
    rw [truncate_of_nonneg (by positivity : 0 ≤ c.elapsed instant / 1000000000),
      truncate_of_nonneg hrem, hfloor]
    congr 1
    omega
  obtain ⟨interval, hnew, hns⟩ := TimeInterval.new_spec
    (s := min (2 ^ 63 - 1) ⌊c.elapsed instant / 1000000000⌋)
    (n := (⌊c.elapsed instant⌋ - 1000000000 * ⌊c.elapsed instant / 1000000000⌋).toNat)
    (by omega) (by omega) (by omega)
  unfold now
  dsimp only
  rw [hi64, hu32, hnew, Checked.ok_bind, TimeStamp.checkedAdd_spec, Checked.ok_bind]
  congr 2
  -- The interval is exact unless the seconds saturate, and then the sum is out of range anyway.
  by_cases hsat : ⌊c.elapsed instant / 1000000000⌋ ≤ 2 ^ 63 - 1
  · congr 1
    omega
  · have hbase : 0 ≤ c.ts.ns := by
      rw [TimeStamp.ns_eq]
      positivity
    rw [TimeStamp.ofNs_eq_none_iff.mpr (.inr (by omega)),
      TimeStamp.ofNs_eq_none_iff.mpr (.inr (by omega))]

end Exact

end VirtualClock

/-- The calls on the clock, each with the instant at which it is made. -/
inductive ClockCall where
  | now (instant : ℕ)
  | step (instant : ℕ) (target : TimeStamp)
  | adjust (instant restart : ℕ) (rate : ℚ)

/-- The clock answers a read. -/
def VirtualClock.call (c : VirtualClock ℚ) : ClockCall → Act TimeStamp (VirtualClock ℚ)
  | .now instant => do
    let reading ← Act.lift (c.now instant)
    Act.emit reading
    pure c
  | .step instant target => pure (c.step instant target)
  | .adjust instant restart rate => Act.lift (c.adjust instant restart rate)

def VirtualClock.run (c : VirtualClock ℚ) (calls : List ClockCall) :
    Act TimeStamp (VirtualClock ℚ) :=
  Act.runAll VirtualClock.call c calls

/-- The clock that cuts nothing, in nanoseconds, with the number of adjustments since it was set. -/
structure IdealClock where
  start : ℕ
  value : ℚ
  rate : ℚ
  adjustments : ℕ

namespace IdealClock

def now (instant : ℕ) (i : IdealClock) : ℚ := i.value + (instant - i.start : ℕ) * i.rate

def call (i : IdealClock) : ClockCall → IdealClock
  | .now _ => i
  | .step instant target => ⟨instant, target.ns, i.rate, 0⟩
  | .adjust instant restart rate => ⟨restart, i.now instant, rate, i.adjustments + 1⟩

/-- What it reads, and how many adjustments were made before. -/
def readings (i : IdealClock) : List ClockCall → List (ℚ × ℕ)
  | [] => []
  | .now instant :: calls => (i.now instant, i.adjustments) :: readings i calls
  | call :: calls => readings (i.call call) calls

/-- The calls are made one after the other, the rates are not negative, and the clock is not adjusted
beyond its range. -/
def Orderly (last : ℕ) (i : IdealClock) : List ClockCall → Prop
  | [] => True
  | .now instant :: calls => last ≤ instant ∧ Orderly instant i calls
  | .step instant target :: calls =>
    last ≤ instant ∧ Orderly instant (i.call (.step instant target)) calls
  | .adjust instant restart rate :: calls =>
    last ≤ instant ∧ instant ≤ restart ∧ 0 ≤ rate ∧ i.now instant < 2 ^ 48 * 1000000000 ∧
      Orderly restart (i.call (.adjust instant restart rate)) calls

end IdealClock

/-- Within the range a reading loses less than a nanosecond, and one for each adjustment. -/
def Reads (reading : TimeStamp) (x : ℚ × ℕ) : Prop :=
  x.1 < 2 ^ 48 * 1000000000 → (reading.ns : ℚ) ≤ x.1 ∧ x.1 < reading.ns + (x.2 + 1)

/-- The clock is behind the ideal one by at most a nanosecond for each adjustment. -/
structure Behind (c : VirtualClock ℚ) (i : IdealClock) : Prop where
  start : c.start = i.start
  rate : c.rate = i.rate
  nonneg : 0 ≤ i.rate
  le : (c.ts.ns : ℚ) ≤ i.value
  ge : i.value ≤ c.ts.ns + i.adjustments

namespace Behind

variable {c : VirtualClock ℚ} {i : IdealClock} {instant : ℕ}

theorem now (h : Behind c i) (hrange : i.now instant < 2 ^ 48 * 1000000000) :
    ∃ reading, c.now instant = .ok reading ∧ reading.ns = c.ts.ns + ⌊c.elapsed instant⌋ ∧
      (reading.ns : ℚ) ≤ i.now instant ∧ i.now instant < reading.ns + (i.adjustments + 1) := by
  have helapsed : i.now instant = i.value + c.elapsed instant := by
    rw [IdealClock.now, VirtualClock.elapsed, h.start, h.rate]
  have hnonneg : 0 ≤ c.elapsed instant :=
    mul_nonneg (Nat.cast_nonneg _) (h.rate ▸ h.nonneg)
  have hle := Int.floor_le (c.elapsed instant)
  have hlt := Int.lt_floor_add_one (c.elapsed instant)
  have hbase : 0 ≤ c.ts.ns := by
    rw [TimeStamp.ns_eq]
    positivity
  have hfloor : 0 ≤ ⌊c.elapsed instant⌋ := Int.floor_nonneg.mpr hnonneg
  have hbound : c.ts.ns + ⌊c.elapsed instant⌋ < 2 ^ 48 * 1000000000 := by
    have hsum : ((c.ts.ns + ⌊c.elapsed instant⌋ : ℤ) : ℚ) < 2 ^ 48 * 1000000000 := by
      push_cast
      have := h.le
      linarith
    exact_mod_cast hsum
  obtain ⟨reading, hreading⟩ :
      ∃ reading, TimeStamp.ofNs (c.ts.ns + ⌊c.elapsed instant⌋) = some reading := by
    refine Option.ne_none_iff_exists'.mp fun hnone => ?_
    rcases TimeStamp.ofNs_eq_none_iff.mp hnone with hneg | hbig
    · omega
    · omega
  have hns := TimeStamp.ns_of_ofNs hreading
  refine ⟨reading, ?_, hns, ?_, ?_⟩
  · rw [c.now_eq instant (h.rate ▸ h.nonneg), hreading]
    rfl
  · rw [hns, helapsed]
    push_cast
    have := h.le
    linarith
  · rw [hns, helapsed]
    push_cast
    have := h.ge
    linarith

theorem answers (h : Behind c i) (instant : ℕ) :
    ∃ reading, c.now instant = .ok reading ∧ (i.now instant < 2 ^ 48 * 1000000000 →
      reading.ns = c.ts.ns + ⌊c.elapsed instant⌋ ∧
        (reading.ns : ℚ) ≤ i.now instant ∧ i.now instant < reading.ns + (i.adjustments + 1)) := by
  by_cases hrange : i.now instant < 2 ^ 48 * 1000000000
  · obtain ⟨reading, hnow, hreads⟩ := h.now hrange
    exact ⟨reading, hnow, fun _ => hreads⟩
  · exact ⟨_, c.now_eq instant (h.rate ▸ h.nonneg), fun hin => absurd hin hrange⟩

theorem step (h : Behind c i) (instant : ℕ) (target : TimeStamp) :
    Behind (c.step instant target) (i.call (.step instant target)) :=
  ⟨rfl, h.rate, h.nonneg, le_rfl, by simp [IdealClock.call, VirtualClock.step]⟩

theorem adjust (h : Behind c i) {restart : ℕ} {rate : ℚ} (hrate : 0 ≤ rate)
    (hrange : i.now instant < 2 ^ 48 * 1000000000) :
    ∃ c', c.adjust instant restart rate = .ok c' ∧
      c'.ts.ns + ⌊c'.elapsed restart⌋ = c.ts.ns + ⌊c.elapsed instant⌋ ∧
      Behind c' (i.call (.adjust instant restart rate)) := by
  obtain ⟨reading, hnow, hns, hle, hlt⟩ := h.now hrange
  refine ⟨⟨restart, reading, rate⟩, ?_, ?_, rfl, rfl, hrate, hle, ?_⟩
  · rw [VirtualClock.adjust, hnow]
    rfl
  · rw [← hns, VirtualClock.elapsed]
    simp
  · have hcast : (i.call (.adjust instant restart rate)).adjustments = i.adjustments + 1 := rfl
    rw [hcast]
    push_cast
    exact hlt.le

theorem floor_mono (h : Behind c i) {last : ℕ} (hlast : last ≤ instant) :
    ⌊c.elapsed last⌋ ≤ ⌊c.elapsed instant⌋ := by
  refine Int.floor_le_floor (mul_le_mul_of_nonneg_right ?_ (h.rate ▸ h.nonneg))
  exact_mod_cast Nat.sub_le_sub_right hlast c.start

/-- Every read of a run is behind the ideal one. Without a step none is before an earlier one, as long
as all of them are within the range. -/
theorem run {calls : List ClockCall} {last : ℕ} (h : Behind c i) (ho : i.Orderly last calls) :
    ∃ c' l, (c.run calls).Returns c' l ∧
      List.Forall₂ Reads l (i.readings calls) ∧
      ((∀ instant target, .step instant target ∉ calls) →
        (∀ x ∈ i.readings calls, x.1 < 2 ^ 48 * 1000000000) →
          (∀ reading ∈ l, c.ts.ns + ⌊c.elapsed last⌋ ≤ reading.ns) ∧
            l.Pairwise fun a b => a.ns ≤ b.ns) := by
  induction calls generalizing c i last with
  | nil => exact ⟨c, [], Act.returns_pure.mpr ⟨rfl, rfl⟩, .nil, fun _ _ => ⟨by simp, .nil⟩⟩
  | cons call calls ih =>
    cases call with
    | now instant =>
      obtain ⟨hlast, hrest⟩ := ho
      obtain ⟨reading, hnow, hread⟩ := h.answers instant
      obtain ⟨c', l, hrun, hreadings, hsorted⟩ := ih h hrest
      refine ⟨c', reading :: l, ?_, .cons (fun hrange => (hread hrange).2) hreadings,
        fun hstep hrange => ?_⟩
      · refine Act.returns_runAll_cons.mpr ⟨c, [reading], l, ?_, hrun, rfl⟩
        rw [VirtualClock.call, hnow]
        rfl
      · obtain ⟨hns, -⟩ := hread (hrange _ List.mem_cons_self)
        obtain ⟨hafter, hpairwise⟩ :=
          hsorted (fun instant target hmem => hstep instant target (List.mem_cons_of_mem _ hmem))
            fun x hx => hrange x (List.mem_cons_of_mem _ hx)
        have hmono := h.floor_mono hlast
        rw [← hns] at hafter
        refine ⟨fun r hr => ?_, .cons hafter hpairwise⟩
        rcases List.mem_cons.mp hr with rfl | hr
        · omega
        · have := hafter r hr
          omega
    | step instant target =>
      obtain ⟨hlast, hrest⟩ := ho
      obtain ⟨c', l, hrun, hreadings, -⟩ := ih (h.step instant target) hrest
      refine ⟨c', l, ?_, hreadings, fun hstep => absurd List.mem_cons_self (hstep instant target)⟩
      exact Act.returns_runAll_cons.mpr ⟨_, [], l, Act.returns_pure.mpr ⟨rfl, rfl⟩, hrun, rfl⟩
    | adjust instant restart rate =>
      obtain ⟨hlast, hrestart, hrate, hrange, hrest⟩ := ho
      obtain ⟨c₁, hadjust, hsame, hbehind⟩ := h.adjust hrate hrange
      obtain ⟨c', l, hrun, hreadings, hsorted⟩ := ih hbehind hrest
      refine ⟨c', l, ?_, hreadings, fun hstep hinRange => ?_⟩
      · refine Act.returns_runAll_cons.mpr ⟨c₁, [], l, ?_, hrun, rfl⟩
        rw [VirtualClock.call, hadjust]
        rfl
      · obtain ⟨hafter, hpairwise⟩ :=
          hsorted (fun instant target hmem => hstep instant target (List.mem_cons_of_mem _ hmem))
            hinRange
        have hmono := h.floor_mono hlast
        refine ⟨fun r hr => ?_, hpairwise⟩
        have := hafter r hr
        omega

end Behind

/-- With `f64` read as exact numbers: a virtual clock whose rates are never negative, and that is not
adjusted beyond its range, answers every read within its range with less than a nanosecond lost for
the read and one for each adjustment since it was set last. Unless it is stepped, or read beyond its
range, it never goes backwards, whatever its rate is adjusted to. -/
theorem virtual_clock_follows {startTs : TimeStamp} {rate : ℚ} {instant : ℕ}
    {calls : List ClockCall} (hrate : 0 ≤ rate)
    (ho : IdealClock.Orderly instant ⟨instant, startTs.ns, rate, 0⟩ calls) :
    ∃ c l, ((VirtualClock.new startTs rate instant).run calls).Returns c l ∧
      List.Forall₂ Reads l (IdealClock.readings ⟨instant, startTs.ns, rate, 0⟩ calls) ∧
      ((∀ instant target, .step instant target ∉ calls) →
        (∀ x ∈ IdealClock.readings ⟨instant, startTs.ns, rate, 0⟩ calls,
          x.1 < 2 ^ 48 * 1000000000) →
        l.Pairwise fun a b => a.ns ≤ b.ns) := by
  have hnew : Behind (VirtualClock.new startTs rate instant) ⟨instant, startTs.ns, rate, 0⟩ :=
    ⟨rfl, rfl, hrate, le_rfl, by simp [VirtualClock.new]⟩
  obtain ⟨c, l, hrun, hreadings, hsorted⟩ := hnew.run ho
  exact ⟨c, l, hrun, hreadings, fun hstep hrange => (hsorted hstep hrange).2⟩

/-- A second at the nominal rate, then one at half of it. -/
def slowedDown : List ClockCall :=
  [.now 1000000000, .adjust 1000000001 1000000002 (1 / 2), .now 2000000003]

theorem slowedDown_orderly : IdealClock.Orderly 0 ⟨0, (stampOf 5).ns, 1, 0⟩ slowedDown := by
  have hns : (stampOf 5).ns = 5000000000 := by decide
  rw [hns]
  norm_num [IdealClock.Orderly, slowedDown, IdealClock.now, IdealClock.call]

theorem virtual_clock_follows_slowedDown :
    ∃ (c : VirtualClock ℚ) (l : List TimeStamp),
      ((VirtualClock.new (stampOf 5) 1 0).run slowedDown).Returns c l ∧
      List.Forall₂ Reads l [(6000000000, 0), (13000000003 / 2, 1)] ∧
      l.Pairwise fun a b => a.ns ≤ b.ns := by
  obtain ⟨c, l, hrun, hreads, hsorted⟩ := virtual_clock_follows zero_le_one slowedDown_orderly
  have hns : (stampOf 5).ns = 5000000000 := by decide
  have hreadings : IdealClock.readings ⟨0, (stampOf 5).ns, 1, 0⟩ slowedDown =
      [(6000000000, 0), (13000000003 / 2, 1)] := by
    rw [hns]
    norm_num [IdealClock.readings, slowedDown, IdealClock.now, IdealClock.call]
  rw [hreadings] at hreads hsorted
  exact ⟨c, l, hrun, hreads, hsorted (by simp [slowedDown]) (by norm_num)⟩

end Rptp
