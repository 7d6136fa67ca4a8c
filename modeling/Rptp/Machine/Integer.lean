import Rptp.Machine.Panic

/-! # Machine integers as numbers with explicit ranges

A value of a machine type is its number. Arithmetic is done on numbers and then checked against
the range of the type: `signed` and `unsigned` panic outside it, `trySigned` returns nothing and
`saturating` stops at the largest value.
-/

namespace Rptp.Machine

/-- The range of a signed integer of `w` bits. -/
def InSigned (w : ℕ) (z : ℤ) : Prop := -2 ^ (w - 1) ≤ z ∧ z < 2 ^ (w - 1)

instance (w : ℕ) (z : ℤ) : Decidable (InSigned w z) := inferInstanceAs (Decidable (_ ∧ _))

def signed (w : ℕ) (z : ℤ) : Checked ℤ := if InSigned w z then .ok z else .error .overflow

def trySigned (w : ℕ) (z : ℤ) : Option ℤ := if InSigned w z then some z else none

def unsigned (w n : ℕ) : Checked ℕ := if n < 2 ^ w then .ok n else .error .overflow

def saturating (w n : ℕ) : ℕ := min n (2 ^ w - 1)

theorem signed_eq {w : ℕ} {z : ℤ} (h : InSigned w z) : signed w z = .ok z := if_pos h

theorem eq_of_signed {w : ℕ} {z r : ℤ} (h : signed w z = .ok r) : r = z := by
  unfold signed at h
  split_ifs at h
  cases h
  rfl

theorem trySigned_eq {w : ℕ} {z : ℤ} (h : InSigned w z) : trySigned w z = some z := if_pos h

theorem trySigned_none {w : ℕ} {z : ℤ} (h : ¬ InSigned w z) : trySigned w z = none := if_neg h

theorem saturating_lt (w n : ℕ) : saturating w n < 2 ^ w := by
  have h : 0 < 2 ^ w := by positivity
  unfold saturating
  omega

theorem inSigned_64 {z : ℤ} :
    InSigned 64 z ↔ -9223372036854775808 ≤ z ∧ z < 9223372036854775808 := by
  norm_num [InSigned]

theorem inSigned_32 {z : ℤ} : InSigned 32 z ↔ -2147483648 ≤ z ∧ z < 2147483648 := by
  norm_num [InSigned]

end Rptp.Machine
