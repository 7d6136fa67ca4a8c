import Rptp.Machine.Integer

/-! # Monotonic instants, durations and log2 intervals -/

namespace Rptp

open Machine

/-- A monotonic local instant, a `u64` number of nanoseconds. -/
structure Instant where
  nanos : ℕ
  nanos_lt : nanos < 2 ^ 64
deriving DecidableEq

/-- A monotonic duration, a `u64` number of nanoseconds. -/
structure Duration where
  nanos : ℕ
  nanos_lt : nanos < 2 ^ 64
deriving DecidableEq

namespace Duration

def fromNanos (nanos : ℕ) : Duration := ⟨saturating 64 nanos, saturating_lt 64 nanos⟩

def fromSecs (secs : UInt32) : Duration :=
  ⟨secs.toNat * 1000000000, by have h := secs.toNat_lt; omega⟩

def saturatingMul (d : Duration) (k : ℕ) : Duration := fromNanos (d.nanos * k)

end Duration

namespace Instant

def fromSecs (secs : UInt32) : Instant :=
  ⟨secs.toNat * 1000000000, by have h := secs.toNat_lt; omega⟩

def saturatingAdd (t : Instant) (d : Duration) : Instant :=
  ⟨saturating 64 (t.nanos + d.nanos), saturating_lt 64 _⟩

/-- The duration since `u`, or nothing when `u` is later. -/
def checkedSub (t u : Instant) : Option Duration :=
  if u.nanos ≤ t.nanos then some ⟨t.nanos - u.nanos, by have h := t.nanos_lt; omega⟩ else none

end Instant

/-- The raw `i8` log2 interval of a message field. -/
structure LogMessageInterval where
  value : Int8
deriving DecidableEq

/-- A log2 interval in the supported range. -/
structure LogInterval where
  logValue : Int8
  range : -20 ≤ logValue.toInt ∧ logValue.toInt ≤ 20
deriving DecidableEq

namespace LogInterval

def new (logValue : Int8) : Checked LogInterval :=
  if h : -20 ≤ logValue.toInt ∧ logValue.toInt ≤ 20 then .ok ⟨logValue, h⟩
  else .error (.assertion
    "log_value >= Self::MIN_LOG_VALUE && log_value <= Self::MAX_LOG_VALUE")

/-- Two to the power of the log value, in seconds. The exponent is clamped first. -/
def duration (l : LogInterval) : Duration :=
  let e := max (-20) (min 20 l.logValue.toInt)
  if 0 ≤ e then Duration.fromNanos (2 ^ e.toNat * 1000000000)
  else Duration.fromNanos (1000000000 / 2 ^ (-e).toNat)

def logMessageInterval (l : LogInterval) : LogMessageInterval := ⟨l.logValue⟩

end LogInterval

namespace LogMessageInterval

/-- The value `0x7F`, which means "not specified". -/
def unspecified : LogMessageInterval := ⟨127⟩

/-- The interval, if the value is in the supported range. -/
def logInterval (l : LogMessageInterval) : Checked (Option LogInterval) :=
  if -20 ≤ l.value.toInt ∧ l.value.toInt ≤ 20 then some <$> LogInterval.new l.value else pure none

def asU8 (l : LogMessageInterval) : UInt8 := l.value.toUInt8

/-- The interval is read only after the range check, so the constructor's assertion holds. -/
theorem logInterval_safe (l : LogMessageInterval) : ∃ r, l.logInterval = .ok r := by
  unfold logInterval
  split_ifs with h
  · exact ⟨_, by rw [LogInterval.new, dif_pos h]; rfl⟩
  · exact ⟨none, rfl⟩

end LogMessageInterval

theorem oneSecond_range : -20 ≤ (0 : Int8).toInt ∧ (0 : Int8).toInt ≤ 20 := by decide

theorem twoSeconds_range : -20 ≤ (1 : Int8).toInt ∧ (1 : Int8).toInt ≤ 20 := by decide

def oneSecond : LogInterval := ⟨0, oneSecond_range⟩

def twoSeconds : LogInterval := ⟨1, twoSeconds_range⟩

end Rptp
