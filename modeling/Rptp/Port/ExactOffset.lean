import Rptp.Port.DelayMechanism

/-! # The exact arithmetic behind an offset

Read as integer nanoseconds, timestamps and intervals compute without an error, in every corner of
their ranges. The offset of a sample is a difference of two differences of timestamps, so it is exact
as far as its half is a whole number.
-/

namespace Rptp

open Machine

/-- The call returns the timestamp at `z` nanoseconds, and nothing exactly where there is none. -/
def TimeStamp.Computes (x : Checked (Option TimeStamp)) (z : ℤ) : Prop :=
  ∃ r, x = .ok r ∧ (r.isSome = true ↔ 0 ≤ z ∧ z < 2 ^ 48 * 1000000000) ∧
    ∀ t ∈ r, t.ns = z ∧ t.nanos < 1000000000

/-- The call returns the interval of `z` nanoseconds. -/
def TimeInterval.Computes (x : Checked TimeInterval) (z : ℤ) : Prop :=
  ∃ d, x = .ok d ∧ d.ns = z ∧ d.nanos < 1000000000

theorem TimeStamp.computes_ofNs (z : ℤ) : TimeStamp.Computes (.ok (ofNs z)) z := by
  refine ⟨ofNs z, rfl, ?_, fun t ht => ⟨ns_of_ofNs ht, t.nanos_bound⟩⟩
  rw [← not_iff_not, Bool.not_eq_true, Option.isSome_eq_false_iff, Option.isNone_iff_eq_none,
    ofNs_eq_none_iff]
  omega

theorem TimeStamp.sub_returns_back {a b : TimeStamp} {d : TimeInterval} (h : d.ns = a.ns - b.ns) :
    b.checkedAdd d = .ok (some a) ∧ a.checkedSub d = .ok (some b) := by
  rw [checkedAdd_spec, checkedSub_spec, h, add_sub_cancel, sub_sub_cancel, ofNs_ns, ofNs_ns]
  exact ⟨rfl, rfl⟩

/-- The half of a difference is exact where the difference is even. -/
theorem half_exact_iff {ms sm offset : ℤ} (h : offset = (ms - sm).tdiv 2) (θ : ℤ) :
    (∃ δ, ms = θ + δ ∧ sm = δ - θ) ↔ 2 * θ = ms - sm ∧ offset = θ := by
  constructor
  · rintro ⟨δ, rfl, rfl⟩
    have hdouble : θ + δ - (δ - θ) = 2 * θ := by ring
    rw [hdouble, Int.mul_tdiv_cancel_left θ two_ne_zero] at h
    exact ⟨hdouble.symm, h⟩
  · rintro ⟨hdouble, -⟩
    exact ⟨ms - θ, by ring, by linarith⟩

/-- Addition and subtraction, differences, absolute values, halves and the orders are exact, and so
is the offset of a sample: it is the difference `θ` of the clocks whenever the delay `δ` is the same
in both directions, and otherwise half of the measured difference towards zero. -/
theorem timeArithmetic_exact :
    (∀ (t : TimeStamp) (d : TimeInterval),
      TimeStamp.Computes (t.checkedAdd d) (t.ns + d.ns) ∧
        TimeStamp.Computes (t.checkedSub d) (t.ns - d.ns)) ∧
    (∀ a b : TimeStamp, ∃ d, a.sub b = .ok d ∧ d.ns = a.ns - b.ns ∧ d.nanos < 1000000000 ∧
      b.checkedAdd d = .ok (some a) ∧ a.checkedSub d = .ok (some b)) ∧
    (∀ d : TimeInterval,
      TimeInterval.Computes d.abs |d.ns| ∧ TimeInterval.Computes d.half (d.ns.tdiv 2)) ∧
    (∀ t u : TimeStamp, compare t u = compare t.ns u.ns) ∧
    (∀ d e : TimeInterval, compare d e = compare d.ns e.ns) ∧
    ∀ t₁ t₂ t₃ t₄ : TimeStamp, ∃ ms sm d offset : TimeInterval,
      t₂.sub t₁ = .ok ms ∧ t₄.sub t₃ = .ok sm ∧ ms.sub sm = .ok d ∧ d.half = .ok offset ∧
      offset.nanos < 1000000000 ∧
      (∀ θ : ℤ, (∃ δ, ms.ns = θ + δ ∧ sm.ns = δ - θ) ↔
        2 * θ = ms.ns - sm.ns ∧ offset.ns = θ) ∧
      ∀ (m : EndToEndDelayMechanism) (ingress : TimeStamp),
        m.syncExchange.times = some (t₂, t₁) → m.delayExchange.times = some (t₄, t₃) →
        m.syncIngressTimestamp = some ingress → m.sample = .ok (some ⟨ingress, offset⟩) := by
  refine ⟨fun t d => ?_, fun a b => ?_, fun d => ?_, TimeStamp.compare_ns, TimeInterval.compare_ns,
    fun t₁ t₂ t₃ t₄ => ?_⟩
  · rw [t.checkedAdd_spec, t.checkedSub_spec]
    exact ⟨TimeStamp.computes_ofNs _, TimeStamp.computes_ofNs _⟩
  · obtain ⟨d, hd, hns⟩ := a.sub_spec b
    exact ⟨d, hd, hns, d.nanos_bound, TimeStamp.sub_returns_back hns⟩
  · obtain ⟨e, he, hens⟩ := d.abs_spec
    obtain ⟨f, hf, hfns⟩ := d.half_spec
    exact ⟨⟨e, he, hens, e.nanos_bound⟩, f, hf, hfns, f.nanos_bound⟩
  · obtain ⟨ms, hms, hmsns⟩ := t₂.sub_spec t₁
    obtain ⟨sm, hsm, hsmns⟩ := t₄.sub_spec t₃
    obtain ⟨d, hd, hdns⟩ := TimeInterval.sub_spec
      ((TimeStamp.sub_within hmsns).mono (by norm_num)) ((TimeStamp.sub_within hsmns).mono (by norm_num))
    obtain ⟨offset, hoffset, hns⟩ := d.half_spec
    rw [hdns] at hns
    refine ⟨ms, sm, d, offset, hms, hsm, hd, hoffset, offset.nanos_bound, half_exact_iff hns, ?_⟩
    intro m ingress hsync hdelay hingress
    obtain ⟨a, ha, htaken, haoffset⟩ :=
      EndToEndDelayMechanism.sample_of_times hsync hdelay hingress
    rw [← hmsns, ← hsmns, ← hns] at haoffset
    rw [ha, ← htaken, ← TimeInterval.ns_injective haoffset]

/-- A Sync from 10 s to 15 s and a DelayReq from 20 s to 19 s. -/
def symmetricExchange : EndToEndDelayMechanism :=
  (((EndToEndDelayMechanism.new ⟨⟨0⟩, ⟨.delayRequestTimeout, none⟩, oneSecond⟩).recordOneStepSync
    ⟨⟨7⟩, ⟨0⟩, stampOf 10⟩ (stampOf 15)).recordDelayRequest ⟨⟨0⟩⟩
      (stampOf 20)).recordDelayResponse
    ⟨⟨0⟩, ⟨0⟩, stampOf 19, ⟨⟨.replicate 8 2⟩, ⟨1⟩⟩⟩

/-- With 2 s of delay both ways, the clock is found to be 3 s ahead. -/
theorem timeArithmetic_exact_symmetric : ∃ offset : TimeInterval,
    symmetricExchange.sample = .ok (some ⟨stampOf 15, offset⟩) ∧ offset.ns = 3000000000 := by
  obtain ⟨-, hsub, -, -, -, hsample⟩ := timeArithmetic_exact
  obtain ⟨ms, sm, -, offset, hms, hsm, -, -, -, hexact, hsampled⟩ :=
    hsample (stampOf 10) (stampOf 15) (stampOf 20) (stampOf 19)
  obtain ⟨ms', hms', hmsns, -⟩ := hsub (stampOf 15) (stampOf 10)
  obtain ⟨sm', hsm', hsmns, -⟩ := hsub (stampOf 19) (stampOf 20)
  rw [hms] at hms'
  rw [hsm] at hsm'
  cases hms'
  cases hsm'
  refine ⟨offset, hsampled _ _ rfl rfl rfl, ?_⟩
  exact ((hexact 3000000000).mp ⟨2000000000, hmsns.trans (by decide), hsmns.trans (by decide)⟩).2

end Rptp
