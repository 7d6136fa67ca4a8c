import Rptp.Machine.Bytes

/-! # The lexicographic order of digits and octet strings

Strings of one length compare piece by piece, a number in two digits compares by the high one first,
and the big-endian form of a number compares as the number itself.
-/

namespace Rptp.Machine

section Lists

variable {α : Type} [Ord α] {l m s t : List α}

theorem compare_append (h : l.length = m.length) :
    compare (l ++ s) (m ++ t) = (compare l m).then (compare s t) := by
  induction l generalizing m with
  | nil =>
    rw [List.length_eq_zero_iff.mp h.symm, List.nil_append, List.nil_append]
    rfl
  | cons a l ih =>
    cases m with
    | nil => simp at h
    | cons b m =>
      rw [List.cons_append, List.cons_append, List.compare_cons_cons, List.compare_cons_cons,
        ih (by simpa using h), Ordering.then_assoc]

end Lists

theorem lt_iff_compare (l m : List UInt8) : l < m ↔ compare l m = .lt := by
  induction l generalizing m with
  | nil =>
    cases m with
    | nil => simp
    | cons b m => simp [List.nil_lt_cons]
  | cons a l ih =>
    cases m with
    | nil => simp
    | cons b m =>
      have hlt : a < b ↔ compare a b = .lt := Std.compare_eq_lt.symm
      have heq : a = b ↔ compare a b = .eq := Std.LawfulEqOrd.compare_eq_iff_eq.symm
      rw [List.cons_lt_cons_iff, List.compare_cons_cons, Ordering.then_eq_lt, ih, hlt, heq]

theorem compare_mul_add {α : Type} [CommSemiring α] [LinearOrder α] [IsStrictOrderedRing α]
    [SuccAddOrder α] {b q p r s : α} (hr : 0 ≤ r) (hrb : r < b) (hs : 0 ≤ s) (hsb : s < b) :
    compare (q * b + r) (p * b + s) = (compare q p).then (compare r s) := by
  have below {q p r s : α} (hrb : r < b) (hs : 0 ≤ s) (hb : 0 ≤ b) (h : q < p) :
      q * b + r < p * b + s := by
    calc q * b + r < q * b + b := by gcongr
      _ = (q + 1) * b := by ring
      _ ≤ p * b := by
        gcongr
        exact Order.add_one_le_of_lt h
      _ ≤ p * b + s := le_add_of_nonneg_right hs
  rcases lt_trichotomy q p with h | rfl | h
  · rw [compare_lt_iff_lt.mpr h, compare_lt_iff_lt.mpr (below hrb hs (hr.trans hrb.le) h)]
    rfl
  · rw [compare_eq_iff_eq.mpr rfl]
    change _ = compare r s
    rcases lt_trichotomy r s with h | rfl | h
    · rw [compare_lt_iff_lt.mpr h, compare_lt_iff_lt.mpr (by gcongr)]
    · rw [compare_eq_iff_eq.mpr rfl, compare_eq_iff_eq.mpr rfl]
    · rw [compare_gt_iff_gt.mpr h, compare_gt_iff_gt.mpr (by gcongr)]
  · rw [compare_gt_iff_gt.mpr h, compare_gt_iff_gt.mpr (below hsb hr (hr.trans hrb.le) h)]
    rfl

theorem compare_divMod (n k : ℕ) :
    compare n k = (compare (n / 256) (k / 256)).then (compare (n % 256) (k % 256)) := by
  rw [← compare_mul_add (b := 256) (Nat.zero_le _) (Nat.mod_lt n (by norm_num)) (Nat.zero_le _)
    (Nat.mod_lt k (by norm_num)), Nat.div_add_mod', Nat.div_add_mod']

theorem compare_natCast (n k : ℕ) : compare (n : ℤ) k = compare n k := by
  change compareOfLessAndEq (n : ℤ) k = compareOfLessAndEq n k
  simp only [compareOfLessAndEq, Nat.cast_lt, Nat.cast_inj]

theorem compare_toNat_uint8 (a b : UInt8) : compare a b = compare a.toNat b.toNat := by
  change compareOfLessAndEq a b = compareOfLessAndEq a.toNat b.toNat
  simp only [compareOfLessAndEq, UInt8.lt_iff_toNat_lt, ← UInt8.toNat_inj]

theorem compare_toNat_uint16 (a b : UInt16) : compare a b = compare a.toNat b.toNat := by
  change compareOfLessAndEq a b = compareOfLessAndEq a.toNat b.toNat
  simp only [compareOfLessAndEq, UInt16.lt_iff_toNat_lt, ← UInt16.toNat_inj]

/-- Big-endian strings compare as the numbers they write. -/
theorem compare_toBe {w n k : ℕ} (hn : n < 256 ^ w) (hk : k < 256 ^ w) :
    compare (toBe w n) (toBe w k) = compare n k := by
  induction w generalizing n k with
  | zero =>
    have hn0 : n = 0 := by simpa using hn
    have hk0 : k = 0 := by simpa using hk
    rw [hn0, hk0]
    rfl
  | succ w ih =>
    rw [pow_succ] at hn hk
    have hlast : compare [UInt8.ofNat n] [UInt8.ofNat k] = compare (n % 256) (k % 256) := by
      rw [List.compare_cons_cons, compare_toNat_uint8]
      simp
    rw [toBe, toBe, compare_append (by simp), ih (by omega) (by omega), hlast, ← compare_divMod]

theorem compare_toBe_uint16 (a b : UInt16) :
    compare (toBe 2 a.toNat) (toBe 2 b.toNat) = compare a b := by
  rw [compare_toNat_uint16]
  exact compare_toBe (by simpa using a.toNat_lt) (by simpa using b.toNat_lt)

end Rptp.Machine
