import Rptp.Machine.Integer
import Rptp.Machine.Bytes

/-! # Timestamps and signed intervals

A `TimeStamp` is a PTP timestamp within the 48-bit wire range and a `TimeInterval` is a signed
number of seconds with a non-negative fraction. Both carry the conditions that their
constructors assert. `ns` reads either of them as an exact number of nanoseconds, and every
operation is specified by what it does to that number.
-/

namespace Rptp

open Machine

def nanosPerSecond : ℕ := 1000000000

structure TimeStamp where
  seconds : ℕ
  nanos : ℕ
  seconds_lt : seconds < 2 ^ 48
  nanos_lt : nanos < nanosPerSecond
deriving DecidableEq

structure TimeInterval where
  seconds : ℤ
  nanos : ℕ
  seconds_range : InSigned 64 seconds
  min_nanos : seconds ≠ -2 ^ 63 ∨ 0 < nanos
  nanos_lt : nanos < nanosPerSecond
deriving DecidableEq

namespace TimeStamp

/-- The constructor asserts the wire bounds. -/
def new (seconds nanos : ℕ) : Checked TimeStamp :=
  if hs : seconds < 2 ^ 48 then
    if hn : nanos < nanosPerSecond then .ok ⟨seconds, nanos, hs, hn⟩
    else .error (.assertion "nanos < 1_000_000_000")
  else .error (.assertion "seconds < Self::MAX_SECONDS_EXCL")

theorem new_eq {seconds nanos : ℕ} (hs : seconds < 2 ^ 48) (hn : nanos < nanosPerSecond) :
    new seconds nanos = .ok ⟨seconds, nanos, hs, hn⟩ := by
  rw [new, dif_pos hs, dif_pos hn]

def tryNewI64 (seconds : ℤ) (nanos : ℕ) : Option TimeStamp :=
  if h : (0 ≤ seconds ∧ seconds < 2 ^ 48) ∧ nanos < nanosPerSecond then
    some ⟨seconds.toNat, nanos, by omega, h.2⟩
  else none

/-- The ten octets of the wire representation: 48-bit seconds, 32-bit nanoseconds. -/
def toWire (t : TimeStamp) : Octets 10 :=
  Octets.ofList (toBe 2 (t.seconds / 2 ^ 32 % 2 ^ 16) ++ toBe 4 (t.seconds % 2 ^ 32) ++
    toBe 4 t.nanos) (by simp)

/-- The exact number of nanoseconds. -/
def ns (t : TimeStamp) : ℤ := t.seconds * nanosPerSecond + t.nanos

/-- The derived lexicographic order. -/
instance : Ord TimeStamp := ⟨compareLex (compareOn seconds) (compareOn nanos)⟩

end TimeStamp

namespace TimeInterval

def zero : TimeInterval := ⟨0, 0, by decide, by decide, by decide⟩

/-- The constructor of an interval. Its number of seconds is an `i64`; the two assertions are the
source's. -/
def new (seconds : ℤ) (nanos : ℕ) : Checked TimeInterval :=
  if hr : InSigned 64 seconds then
    if hm : seconds ≠ -2 ^ 63 ∨ 0 < nanos then
      if hn : nanos < nanosPerSecond then .ok ⟨seconds, nanos, hr, hm, hn⟩
      else .error (.assertion "nanos < 1_000_000_000")
    else .error (.assertion "seconds != i64::MIN || nanos > 0")
  else .error .overflow

/-- The exact number of nanoseconds. It fits in the `i128` of `total_nanos`. -/
def ns (d : TimeInterval) : ℤ := d.seconds * nanosPerSecond + d.nanos

def totalNanos (d : TimeInterval) : ℤ := d.ns

def fromTotalNanos (total : ℤ) : Checked TimeInterval := do
  let seconds := total / nanosPerSecond
  let nanos := total % nanosPerSecond
  Checked.assert (decide (InSigned 64 seconds))
    "seconds >= i64::MIN as i128 && seconds <= i64::MAX as i128"
  new seconds nanos.toNat

/-- Half of the interval, rounded towards zero. -/
def half (d : TimeInterval) : Checked TimeInterval := fromTotalNanos (d.totalNanos.tdiv 2)

def abs (d : TimeInterval) : Checked TimeInterval :=
  if d.seconds < 0 then
    if d.nanos = 0 then do
      let s ← signed 64 (-d.seconds)
      new s 0
    else do
      let secs ← signed 64 (d.seconds + 1)
      let s ← signed 64 (-secs)
      new s (nanosPerSecond - d.nanos)
  else pure d

/-- The difference of two intervals, with a borrow from the seconds. -/
def sub (d e : TimeInterval) : Checked TimeInterval := do
  let deltaSeconds ← signed 64 (d.seconds - e.seconds)
  let deltaNanos ← signed 32 ((d.nanos : ℤ) - e.nanos)
  if deltaNanos < 0 then do
    let deltaSeconds ← signed 64 (deltaSeconds - 1)
    let deltaNanos ← signed 32 (deltaNanos + 1000000000)
    new deltaSeconds deltaNanos.toNat
  else new deltaSeconds deltaNanos.toNat

/-- The derived lexicographic order. -/
instance : Ord TimeInterval := ⟨compareLex (compareOn seconds) (compareOn nanos)⟩

def lt (d e : TimeInterval) : Bool := compare d e == .lt

def le (d e : TimeInterval) : Bool := compare d e != .gt

end TimeInterval

namespace TimeStamp

def checkedAdd (t : TimeStamp) (d : TimeInterval) : Checked (Option TimeStamp) := do
  match trySigned 64 ((t.seconds : ℤ) + d.seconds) with
  | none => pure none
  | some seconds =>
    let nanos ← unsigned 32 (t.nanos + d.nanos)
    if nanosPerSecond ≤ nanos then
      match trySigned 64 (seconds + 1) with
      | none => pure none
      | some seconds => pure (tryNewI64 seconds (nanos - nanosPerSecond))
    else pure (tryNewI64 seconds nanos)

def checkedSub (t : TimeStamp) (d : TimeInterval) : Checked (Option TimeStamp) := do
  match trySigned 64 ((t.seconds : ℤ) - d.seconds) with
  | none => pure none
  | some seconds =>
    let nanos ← signed 32 ((t.nanos : ℤ) - d.nanos)
    if nanos < 0 then
      match trySigned 64 (seconds - 1) with
      | none => pure none
      | some seconds => do
        let nanos ← signed 32 (nanos + 1000000000)
        pure (tryNewI64 seconds nanos.toNat)
    else pure (tryNewI64 seconds nanos.toNat)

/-- The signed interval from `u` to `t`. -/
def sub (t u : TimeStamp) : Checked TimeInterval := do
  let deltaSeconds ← signed 64 ((t.seconds : ℤ) - u.seconds)
  let deltaNanos ← signed 32 ((t.nanos : ℤ) - u.nanos)
  if deltaNanos < 0 then do
    let deltaSeconds ← signed 64 (deltaSeconds - 1)
    let deltaNanos ← signed 32 (deltaNanos + 1000000000)
    TimeInterval.new deltaSeconds deltaNanos.toNat
  else TimeInterval.new deltaSeconds deltaNanos.toNat

end TimeStamp

end Rptp
