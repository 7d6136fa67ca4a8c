import Rptp.Time.Stamp
import Rptp.Machine.Lexicographic

/-! # Exactness of the time arithmetic

Each operation on timestamps and intervals returns, and its result has the exact number of
nanoseconds. These are the only facts about time that the rest of the development uses.
-/

namespace Rptp

open Machine

theorem nanosPerSecond_eq : nanosPerSecond = 1000000000 := rfl

namespace TimeInterval

theorem seconds_bounds (d : TimeInterval) :
    -9223372036854775808 ≤ d.seconds ∧ d.seconds < 9223372036854775808 :=
  inSigned_64.mp d.seconds_range

theorem nanos_bound (d : TimeInterval) : d.nanos < 1000000000 := d.nanos_lt

theorem ns_eq (d : TimeInterval) : d.ns = d.seconds * 1000000000 + d.nanos := rfl

theorem seconds_eq_ns (d : TimeInterval) : d.seconds = d.ns / 1000000000 := by
  have h := d.nanos_bound
  rw [ns_eq]
  omega

theorem nanos_eq_ns (d : TimeInterval) : (d.nanos : ℤ) = d.ns % 1000000000 := by
  have h := d.nanos_bound
  rw [ns_eq]
  omega

theorem ns_injective : Function.Injective ns := by
  intro d e h
  have hs : d.seconds = e.seconds := by rw [seconds_eq_ns, seconds_eq_ns, h]
  have hn : d.nanos = e.nanos := by
    have h' : (d.nanos : ℤ) = e.nanos := by rw [nanos_eq_ns, nanos_eq_ns, h]
    exact_mod_cast h'
  cases d
  cases e
  simp_all

theorem compare_ns (d e : TimeInterval) : compare d e = compare d.ns e.ns := by
  have hd := d.nanos_bound
  have he := e.nanos_bound
  rw [ns_eq, ns_eq, compare_mul_add (by omega) (by omega) (by omega) (by omega), compare_natCast]
  rfl

theorem lt_iff {d e : TimeInterval} : d.lt e = true ↔ d.ns < e.ns := by
  rw [lt, compare_ns, beq_iff_eq, compare_lt_iff_lt]

theorem le_iff {d e : TimeInterval} : d.le e = true ↔ d.ns ≤ e.ns := by
  rw [le, compare_ns, bne_iff_ne, compare_le_iff_le]

theorem new_spec {s : ℤ} {n : ℕ} (hl : -9223372036854775808 < s) (hu : s < 9223372036854775808)
    (hn : n < 1000000000) : ∃ d, new s n = .ok d ∧ d.ns = s * 1000000000 + n := by
  have hr : InSigned 64 s := inSigned_64.mpr ⟨by omega, hu⟩
  have hm : s ≠ -2 ^ 63 ∨ 0 < n := .inl (by norm_num; omega)
  exact ⟨⟨s, n, hr, hm, hn⟩, by rw [new, dif_pos hr, dif_pos hm, dif_pos (by exact hn)], rfl⟩

/-- A constructor result with the given total, whatever way its seconds and nanoseconds were
computed. -/
theorem new_of_total {s n z : ℤ} (hz : z = s * 1000000000 + n) (h0 : 0 ≤ n) (h1 : n < 1000000000)
    (hl : -9223372036854775808 < s) (hu : s < 9223372036854775808) :
    ∃ d, new s n.toNat = .ok d ∧ d.ns = z := by
  obtain ⟨d, hd, hns⟩ := new_spec (n := n.toNat) hl hu (by omega)
  exact ⟨d, hd, by rw [hns]; omega⟩

theorem ns_of_new {s : ℤ} {n : ℕ} {d : TimeInterval} (h : new s n = .ok d) :
    d.ns = s * 1000000000 + n := by
  unfold new at h
  split_ifs at h
  cases h
  rfl

theorem two_mul_tdiv_two (z : ℤ) :
    2 * z.tdiv 2 = z ∨ 2 * z.tdiv 2 = z - 1 ∨ 2 * z.tdiv 2 = z + 1 := by
  have h := Int.mul_tdiv_add_tmod z 2
  have h3 : z.tmod 2 = 0 ∨ z.tmod 2 = 1 ∨ z.tmod 2 = -1 := by
    rcases le_total 0 z with hp | hp
    · have := Int.tmod_nonneg 2 hp
      have := Int.tmod_lt_of_pos z (by norm_num : (0 : ℤ) < 2)
      omega
    · have h4 := Int.tmod_nonneg 2 (by omega : (0 : ℤ) ≤ -z)
      have h5 := Int.tmod_lt_of_pos (-z) (by norm_num : (0 : ℤ) < 2)
      rw [Int.neg_tmod] at h4 h5
      omega
  omega

theorem half_spec (d : TimeInterval) : ∃ e, d.half = .ok e ∧ e.ns = d.ns.tdiv 2 := by
  have hs := d.seconds_bounds
  have hn := d.nanos_bound
  have hm := d.min_nanos
  have hd := d.ns_eq
  have ht := two_mul_tdiv_two d.ns
  unfold half fromTotalNanos totalNanos
  set z := d.ns.tdiv 2
  have hz : z = z / 1000000000 * 1000000000 + z % 1000000000 := by omega
  have hl : -9223372036854775808 < z / 1000000000 := by omega
  have hu : z / 1000000000 < 9223372036854775808 := by omega
  have hr : InSigned 64 (z / (nanosPerSecond : ℤ)) := inSigned_64.mpr ⟨le_of_lt hl, hu⟩
  obtain ⟨e, he, hns⟩ := new_of_total hz (by omega) (by omega) hl hu
  refine ⟨e, ?_, hns⟩
  dsimp only
  rw [Checked.assert_of (decide_eq_true hr), Checked.ok_bind]
  exact he

theorem abs_spec (d : TimeInterval) : ∃ e, d.abs = .ok e ∧ e.ns = |d.ns| := by
  have hs := d.seconds_bounds
  have hn := d.nanos_bound
  have hd := d.ns_eq
  have hm : d.seconds ≠ -9223372036854775808 ∨ 0 < d.nanos := by simpa using d.min_nanos
  unfold abs
  split_ifs with hneg hzero
  · have hr : InSigned 64 (-d.seconds) := inSigned_64.mpr (by omega)
    obtain ⟨e, he, hns⟩ := new_spec (s := -d.seconds) (n := 0) (by omega) (by omega) (by omega)
    refine ⟨e, by simpa [signed_eq hr] using he, ?_⟩
    rw [hns, abs_of_nonpos (by omega)]
    omega
  · have hr : InSigned 64 (d.seconds + 1) := inSigned_64.mpr (by omega)
    have hr' : InSigned 64 (-(d.seconds + 1)) := inSigned_64.mpr (by omega)
    obtain ⟨e, he, hns⟩ := new_spec (s := -(d.seconds + 1)) (n := nanosPerSecond - d.nanos)
      (by omega) (by omega) (by rw [nanosPerSecond_eq]; omega)
    refine ⟨e, by simpa only [signed_eq hr, signed_eq hr', Checked.ok_bind] using he, ?_⟩
    rw [hns, abs_of_nonpos (by omega), nanosPerSecond_eq]
    omega
  · exact ⟨d, rfl, by rw [abs_of_nonneg (by omega)]⟩

/-- The interval is at most `k` seconds long, in either direction. -/
def Within (k : ℤ) (d : TimeInterval) : Prop := |d.ns| ≤ k * 1000000000

theorem Within.mono {d : TimeInterval} {j k : ℤ} (h : d.Within j) (hjk : j ≤ k) : d.Within k := by
  unfold Within at *
  omega

/-- A constructor result after a borrow from the seconds, where one is needed. -/
theorem new_borrowed {s n : ℤ} (hl : -9223372036854775807 < s) (hu : s < 9223372036854775808)
    (h0 : -1000000000 < n) (h1 : n < 1000000000) :
    ∃ d, (if n < 0 then do
        let seconds ← signed 64 (s - 1)
        let nanos ← signed 32 (n + 1000000000)
        new seconds nanos.toNat
      else new s n.toNat) = .ok d ∧ d.ns = s * 1000000000 + n := by
  split_ifs with hneg
  · have hr1 : InSigned 64 (s - 1) := inSigned_64.mpr (by omega)
    have hr2 : InSigned 32 (n + 1000000000) := inSigned_32.mpr (by omega)
    simp only [signed_eq hr1, signed_eq hr2, Checked.ok_bind]
    exact new_of_total (by ring) (by omega) (by omega) (by omega) (by omega)
  · exact new_of_total rfl (by omega) h1 (by omega) hu

/-- Differences of intervals within `2 ^ 60` seconds return and are exact. -/
theorem sub_spec {d e : TimeInterval} (hd : d.Within (2 ^ 60)) (he : e.Within (2 ^ 60)) :
    ∃ f, d.sub e = .ok f ∧ f.ns = d.ns - e.ns := by
  have hdn := d.nanos_bound
  have hen := e.nanos_bound
  have hds := abs_le.mp hd
  have hes := abs_le.mp he
  rw [ns_eq] at hds hes
  have hr1 : InSigned 64 (d.seconds - e.seconds) := inSigned_64.mpr (by omega)
  have hr2 : InSigned 32 ((d.nanos : ℤ) - e.nanos) := inSigned_32.mpr (by omega)
  obtain ⟨f, hf, hns⟩ := new_borrowed (s := d.seconds - e.seconds) (n := (d.nanos : ℤ) - e.nanos)
    (by omega) (by omega) (by omega) (by omega)
  refine ⟨f, ?_, ?_⟩
  · rw [sub, signed_eq hr1, Checked.ok_bind, signed_eq hr2, Checked.ok_bind, hf]
  · rw [hns, ns_eq, ns_eq]
    ring

/-- A difference that is returned is exact, however large the intervals are. -/
theorem ns_of_sub {d e f : TimeInterval} (h : d.sub e = .ok f) : f.ns = d.ns - e.ns := by
  obtain ⟨seconds, hseconds, h⟩ := Checked.bind_eq_ok.mp h
  obtain ⟨nanos, hnanos, h⟩ := Checked.bind_eq_ok.mp h
  have hs := eq_of_signed hseconds
  have hn := eq_of_signed hnanos
  rw [ns_eq d, ns_eq e]
  split_ifs at h with hneg
  · obtain ⟨borrowed, hborrowed, h⟩ := Checked.bind_eq_ok.mp h
    obtain ⟨carried, hcarried, h⟩ := Checked.bind_eq_ok.mp h
    have hb := eq_of_signed hborrowed
    have hc := eq_of_signed hcarried
    have hd := d.nanos_bound
    have he := e.nanos_bound
    rw [ns_of_new h]
    omega
  · rw [ns_of_new h]
    omega

end TimeInterval

namespace TimeStamp

theorem ns_eq (t : TimeStamp) : t.ns = t.seconds * 1000000000 + t.nanos := rfl

theorem seconds_bound (t : TimeStamp) : t.seconds < 281474976710656 := by
  simpa using t.seconds_lt

theorem nanos_bound (t : TimeStamp) : t.nanos < 1000000000 := t.nanos_lt

theorem ns_range (t : TimeStamp) : 0 ≤ t.ns ∧ t.ns < 2 ^ 48 * 1000000000 := by
  have hs := t.seconds_bound
  have hn := t.nanos_bound
  rw [ns_eq]
  omega

theorem ns_injective : Function.Injective ns := by
  intro t u h
  have ht := t.nanos_bound
  have hu := u.nanos_bound
  rw [ns_eq, ns_eq] at h
  have hs : t.seconds = u.seconds := by omega
  have hn : t.nanos = u.nanos := by omega
  cases t
  cases u
  simp_all

theorem compare_ns (t u : TimeStamp) : compare t u = compare t.ns u.ns := by
  have ht := t.nanos_bound
  have hu := u.nanos_bound
  rw [ns_eq, ns_eq, compare_mul_add (by omega) (by omega) (by omega) (by omega), compare_natCast,
    compare_natCast]
  rfl

theorem sub_spec (t u : TimeStamp) : ∃ d, t.sub u = .ok d ∧ d.ns = t.ns - u.ns := by
  have hts := t.seconds_bound
  have hus := u.seconds_bound
  have htn := t.nanos_bound
  have hun := u.nanos_bound
  have hr1 : InSigned 64 ((t.seconds : ℤ) - u.seconds) := inSigned_64.mpr (by omega)
  have hr2 : InSigned 32 ((t.nanos : ℤ) - u.nanos) := inSigned_32.mpr (by omega)
  obtain ⟨d, hd, hns⟩ := TimeInterval.new_borrowed (s := (t.seconds : ℤ) - u.seconds)
    (n := (t.nanos : ℤ) - u.nanos) (by omega) (by omega) (by omega) (by omega)
  refine ⟨d, ?_, ?_⟩
  · rw [sub, signed_eq hr1, Checked.ok_bind, signed_eq hr2, Checked.ok_bind, hd]
  · rw [hns, ns_eq, ns_eq]
    ring

theorem sub_within {t u : TimeStamp} {d : TimeInterval} (h : d.ns = t.ns - u.ns) :
    d.Within (2 ^ 48) := by
  have ht := t.ns_range
  have hu := u.ns_range
  rw [TimeInterval.Within, h, abs_le]
  omega

/-- The timestamp with the given number of nanoseconds, where one exists. -/
def ofNs (z : ℤ) : Option TimeStamp := tryNewI64 (z / 1000000000) (z % 1000000000).toNat

theorem ofNs_ns (t : TimeStamp) : ofNs t.ns = some t := by
  have hs := t.seconds_bound
  have hn := t.nanos_bound
  have h1 : t.ns / 1000000000 = t.seconds := by rw [ns_eq]; omega
  have h2 : (t.ns % 1000000000).toNat = t.nanos := by rw [ns_eq]; omega
  have hc : (0 ≤ (t.seconds : ℤ) ∧ (t.seconds : ℤ) < 2 ^ 48) ∧ t.nanos < nanosPerSecond :=
    ⟨⟨by omega, by norm_num; omega⟩, t.nanos_lt⟩
  rw [ofNs, h1, h2, tryNewI64, dif_pos hc]
  simp

theorem ns_of_ofNs {z : ℤ} {t : TimeStamp} (h : ofNs z = some t) : t.ns = z := by
  unfold ofNs tryNewI64 at h
  split_ifs at h with hc
  cases h
  change (((z / 1000000000).toNat : ℤ)) * 1000000000 + ((z % 1000000000).toNat : ℤ) = z
  omega

theorem ofNs_eq_none_iff {z : ℤ} : ofNs z = none ↔ z < 0 ∨ 2 ^ 48 * 1000000000 ≤ z := by
  have hn : (z % 1000000000).toNat < nanosPerSecond := by
    rw [nanosPerSecond_eq]
    omega
  rw [ofNs, tryNewI64]
  split_ifs with hc
  · simp only [false_iff]
    omega
  · simp only [true_iff]
    omega

/-- A timestamp of the given seconds and nanoseconds, wherever there is one. -/
theorem tryNewI64_eq {s n z : ℤ} (hz : z = s * 1000000000 + n) (h0 : 0 ≤ n) (h1 : n < 1000000000) :
    tryNewI64 s n.toNat = ofNs z := by
  have hs : z / 1000000000 = s := by omega
  have hn : z % 1000000000 = n := by omega
  rw [ofNs, hs, hn]

/-- Adding an interval to a timestamp returns; the result is exact wherever the exact result is a
timestamp. -/
theorem checkedAdd_spec (t : TimeStamp) (d : TimeInterval) :
    t.checkedAdd d = .ok (ofNs (t.ns + d.ns)) := by
  have hts := t.seconds_bound
  have htn := t.nanos_bound
  have hds := d.seconds_bounds
  have hdn := d.nanos_bound
  have hns : t.ns + d.ns = ((t.seconds : ℤ) + d.seconds) * 1000000000 + ((t.nanos : ℤ) + d.nanos) := by
    rw [ns_eq, TimeInterval.ns_eq]; ring
  have hr2 : unsigned 32 (t.nanos + d.nanos) = .ok (t.nanos + d.nanos) := if_pos (by norm_num; omega)
  unfold checkedAdd
  by_cases hr1 : InSigned 64 ((t.seconds : ℤ) + d.seconds)
  · simp only [trySigned_eq hr1, hr2, Checked.ok_bind]
    split_ifs with hcarry
    · rw [nanosPerSecond_eq] at hcarry
      by_cases hr3 : InSigned 64 ((t.seconds : ℤ) + d.seconds + 1)
      · simp only [trySigned_eq hr3, Checked.pure_eq]
        rw [← tryNewI64_eq (s := (t.seconds : ℤ) + d.seconds + 1)
          (n := ((t.nanos + d.nanos - nanosPerSecond : ℕ) : ℤ)) _ (by omega) _, Int.toNat_natCast]
        · rw [nanosPerSecond_eq]
          omega
        · rw [nanosPerSecond_eq]
          omega
      · -- The carry leaves `i64`, so the exact sum is far beyond the last timestamp.
        rw [trySigned_none hr3]
        rw [inSigned_64] at hr1 hr3
        rw [ofNs_eq_none_iff.mpr (by omega)]
        rfl
    · rw [nanosPerSecond_eq] at hcarry
      rw [Checked.pure_eq, ← tryNewI64_eq (n := ((t.nanos + d.nanos : ℕ) : ℤ)) hns (by omega) (by omega),
        Int.toNat_natCast]
  · rw [trySigned_none hr1]
    rw [inSigned_64] at hr1
    rw [ofNs_eq_none_iff.mpr (by omega)]
    rfl

/-- Subtracting an interval from a timestamp returns; the result is exact wherever the exact
result is a timestamp. -/
theorem checkedSub_spec (t : TimeStamp) (d : TimeInterval) :
    t.checkedSub d = .ok (ofNs (t.ns - d.ns)) := by
  have hts := t.seconds_bound
  have htn := t.nanos_bound
  have hds := d.seconds_bounds
  have hdn := d.nanos_bound
  have hns : t.ns - d.ns = ((t.seconds : ℤ) - d.seconds) * 1000000000 + ((t.nanos : ℤ) - d.nanos) := by
    rw [ns_eq, TimeInterval.ns_eq]; ring
  have hr2 : InSigned 32 ((t.nanos : ℤ) - d.nanos) := inSigned_32.mpr (by omega)
  unfold checkedSub
  by_cases hr1 : InSigned 64 ((t.seconds : ℤ) - d.seconds)
  · simp only [trySigned_eq hr1, signed_eq hr2, Checked.ok_bind]
    have hb := inSigned_64.mp hr1
    split_ifs with hneg
    · by_cases hr3 : InSigned 64 ((t.seconds : ℤ) - d.seconds - 1)
      · have hr4 : InSigned 32 ((t.nanos : ℤ) - d.nanos + 1000000000) := inSigned_32.mpr (by omega)
        simp only [trySigned_eq hr3, signed_eq hr4, Checked.ok_bind, Checked.pure_eq]
        rw [tryNewI64_eq (z := t.ns - d.ns) (by omega) (by omega) (by omega)]
      · rw [inSigned_64] at hr3
        omega
    · rw [Checked.pure_eq, tryNewI64_eq hns (by omega) (by omega)]
  · rw [trySigned_none hr1]
    rw [inSigned_64] at hr1
    rw [ofNs_eq_none_iff.mpr (by omega)]
    rfl

end TimeStamp

theorem seconds_lt_wire (seconds : UInt16) : seconds.toNat < 2 ^ 48 := by
  have hlt := seconds.toNat_lt
  omega

theorem nanosPerSecond_pos : 0 < nanosPerSecond := by decide

/-- The timestamp of a whole number of seconds. -/
def stampOf (seconds : UInt16) : TimeStamp := ⟨seconds.toNat, 0, seconds_lt_wire seconds, nanosPerSecond_pos⟩

end Rptp
