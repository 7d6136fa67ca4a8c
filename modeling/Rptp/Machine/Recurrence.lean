import Mathlib.Algebra.Order.Field.Basic
import Mathlib.Tactic.FieldSimp
import Mathlib.Tactic.Linarith
import Mathlib.Tactic.LinearCombination
import Mathlib.Tactic.Positivity
import Mathlib.Tactic.Ring

/-! # Disturbed second-order recurrences

A sequence with `z (k + 2) = a * z (k + 1) - b * z k` dies out if both roots of its characteristic
polynomial lie within the unit circle. If the equation holds up to an error only, the sequence comes
down to a multiple of the error. Both follow from a quadratic form of two neighbours that every step
of the recurrence makes smaller.
-/

namespace Rptp.Machine

variable {K : Type*} [Field K] [LinearOrder K] [IsStrictOrderedRing K]

/-- Both roots of `x ^ 2 - a * x + b` lie within the unit circle. -/
structure StableRoots (a b : K) : Prop where
  product : b < 1
  sum : |a| < 1 + b

section Energy

variable (a b : K)

/-- What a step of the recurrence takes from the energy, for each unit of the two squares. -/
def damping : K := (1 - b) * ((1 + b) ^ 2 - a ^ 2) / 2

/-- The energy of two neighbours, the later one first. -/
def energy (z w : K) : K :=
  (1 + b) * (z ^ 2 + b ^ 2 * w ^ 2) - 2 * (a * b * z * w) + damping a b * w ^ 2

/-- The energy is at most this multiple of the two squares. -/
def energyBound : K := (1 + b) * (1 + b ^ 2) + |a * b| + damping a b

/-- The part of the energy that is gone after a disturbed step. -/
def energyLoss : K := damping a b / (2 * energyBound a b)

/-- What a disturbance of every step adds up to, for each unit of its square. -/
def errorGain : K := (1 + (energyLoss a b)⁻¹) * (1 + b) / energyLoss a b

theorem energy_next (z w : K) :
    energy a b (a * z - b * w) z = energy a b z w - damping a b * (z ^ 2 + w ^ 2) := by
  unfold energy damping
  ring

theorem energy_disturbed {θ : K} (hθ : 0 < θ) (hnonneg : ∀ z w, 0 ≤ energy a b z w) (z w d : K) :
    energy a b (z + d) w ≤ (1 + θ) * energy a b z w + (1 + θ⁻¹) * ((1 + b) * d ^ 2) := by
  have hform := hnonneg (θ * z - d) (θ * w)
  have hcross : (1 + θ) * energy a b z w + (1 + θ⁻¹) * ((1 + b) * d ^ 2) - energy a b (z + d) w =
      θ⁻¹ * energy a b (θ * z - d) (θ * w) := by
    unfold energy
    field_simp
    ring
  have hpos : 0 ≤ θ⁻¹ * energy a b (θ * z - d) (θ * w) := by positivity
  linarith

end Energy

namespace StableRoots

variable {a b : K} (h : StableRoots a b)

include h

theorem one_add_pos : 0 < 1 + b := (abs_nonneg a).trans_lt h.sum

theorem damping_pos : 0 < damping a b := by
  have hsq : a ^ 2 < (1 + b) ^ 2 := sq_lt_sq' (by linarith [(abs_lt.mp h.sum).1]) (abs_lt.mp h.sum).2
  have hproduct := h.product
  have hfirst : 0 < 1 - b := by linarith
  have hsecond : 0 < (1 + b) ^ 2 - a ^ 2 := by linarith
  unfold damping
  positivity

theorem sq_le_energy (z w : K) : (1 + b - |a|) * z ^ 2 ≤ energy a b z w := by
  have hcross : 2 * (a * b * z * w) ≤ |a| * (z ^ 2 + b ^ 2 * w ^ 2) := by
    have htwo : |2 * (z * (b * w))| ≤ z ^ 2 + b ^ 2 * w ^ 2 := by
      rw [abs_le]
      constructor
      · linarith [sq_nonneg (z + b * w)]
      · linarith [sq_nonneg (z - b * w)]
    calc 2 * (a * b * z * w) = a * (2 * (z * (b * w))) := by ring
      _ ≤ |a * (2 * (z * (b * w)))| := le_abs_self _
      _ = |a| * |2 * (z * (b * w))| := abs_mul _ _
      _ ≤ |a| * (z ^ 2 + b ^ 2 * w ^ 2) := mul_le_mul_of_nonneg_left htwo (abs_nonneg a)
  have hrest : 0 ≤ (1 + b - |a|) * (b ^ 2 * w ^ 2) := by
    have hsum := h.sum
    have hfactor : 0 ≤ 1 + b - |a| := by linarith
    positivity
  have hdamping : 0 ≤ damping a b * w ^ 2 := by
    have := h.damping_pos
    positivity
  unfold energy
  linarith

theorem energy_nonneg (z w : K) : 0 ≤ energy a b z w := by
  have hsum := h.sum
  have hfactor : 0 ≤ 1 + b - |a| := by linarith
  exact (by positivity : 0 ≤ (1 + b - |a|) * z ^ 2).trans (h.sq_le_energy z w)

theorem energy_le (z w : K) : energy a b z w ≤ energyBound a b * (z ^ 2 + w ^ 2) := by
  have hcross : -(2 * (a * b * z * w)) ≤ |a * b| * (z ^ 2 + w ^ 2) := by
    have htwo : |2 * (z * w)| ≤ z ^ 2 + w ^ 2 := by
      rw [abs_le]
      constructor
      · linarith [sq_nonneg (z + w)]
      · linarith [sq_nonneg (z - w)]
    calc -(2 * (a * b * z * w)) = -(a * b * (2 * (z * w))) := by ring
      _ ≤ |a * b * (2 * (z * w))| := neg_le_abs _
      _ = |a * b| * |2 * (z * w)| := abs_mul _ _
      _ ≤ |a * b| * (z ^ 2 + w ^ 2) := mul_le_mul_of_nonneg_left htwo (abs_nonneg _)
  have hb := h.one_add_pos
  have hone : 0 ≤ (1 + b) * (b ^ 2 * z ^ 2) := by positivity
  have htwo : 0 ≤ (1 + b) * w ^ 2 := by positivity
  have hthree : 0 ≤ damping a b * z ^ 2 := by
    have := h.damping_pos
    positivity
  unfold energy energyBound
  linarith

theorem energyBound_pos : 0 < energyBound a b := by
  have hb := h.one_add_pos
  have hd := h.damping_pos
  unfold energyBound
  positivity

theorem energyLoss_pos : 0 < energyLoss a b := by
  have hd := h.damping_pos
  have hbound := h.energyBound_pos
  unfold energyLoss
  positivity

theorem energyLoss_le : energyLoss a b ≤ 1 / 2 := by
  have hb := h.one_add_pos
  have hbound : damping a b ≤ energyBound a b := by
    have hone : 0 ≤ (1 + b) * (1 + b ^ 2) := by positivity
    unfold energyBound
    linarith [abs_nonneg (a * b)]
  rw [energyLoss, div_le_iff₀ (mul_pos two_pos h.energyBound_pos)]
  linarith

theorem errorGain_nonneg : 0 ≤ errorGain a b := by
  have hb := h.one_add_pos
  have hloss := h.energyLoss_pos
  unfold errorGain
  positivity

theorem energy_next_le (z w : K) :
    energy a b (a * z - b * w) z ≤ (1 - 2 * energyLoss a b) * energy a b z w := by
  have hbound := h.energyBound_pos
  have hpart : 2 * energyLoss a b * energy a b z w ≤ damping a b * (z ^ 2 + w ^ 2) := by
    have hloss := h.energyLoss_pos
    calc 2 * energyLoss a b * energy a b z w
        ≤ 2 * energyLoss a b * (energyBound a b * (z ^ 2 + w ^ 2)) :=
          mul_le_mul_of_nonneg_left (h.energy_le z w) (by positivity)
      _ = damping a b * (z ^ 2 + w ^ 2) := by
          unfold energyLoss
          field_simp
  rw [energy_next]
  linarith

theorem energy_step (z w d : K) :
    energy a b (a * z - b * w + d) z ≤ (1 - energyLoss a b) * energy a b z w +
      energyLoss a b * errorGain a b * d ^ 2 := by
  have hloss := h.energyLoss_pos
  have hnext := h.energy_next_le z w
  have hnonneg := h.energy_nonneg z w
  have hdisturbed := energy_disturbed a b hloss h.energy_nonneg (a * z - b * w) z d
  have hgain : energyLoss a b * errorGain a b * d ^ 2 =
      (1 + (energyLoss a b)⁻¹) * ((1 + b) * d ^ 2) := by
    unfold errorGain
    field_simp
  generalize energyLoss a b = θ at *
  have hfactor : (1 + θ) * energy a b (a * z - b * w) z ≤ (1 - θ) * energy a b z w := by
    calc (1 + θ) * energy a b (a * z - b * w) z
        ≤ (1 + θ) * ((1 - 2 * θ) * energy a b z w) :=
          mul_le_mul_of_nonneg_left hnext (by linarith)
      _ = (1 - θ) * energy a b z w - 2 * θ ^ 2 * energy a b z w := by ring
      _ ≤ (1 - θ) * energy a b z w := by
          have hsquare : 0 ≤ 2 * θ ^ 2 * energy a b z w := by positivity
          linarith
  linarith

/-- The energy of a sequence that obeys the recurrence up to an error. -/
theorem energy_run {z : ℕ → K} {η : K} {n : ℕ}
    (herror : ∀ k < n, |z (k + 2) - (a * z (k + 1) - b * z k)| ≤ η) :
    energy a b (z (n + 1)) (z n) ≤
      (1 - energyLoss a b) ^ n * energy a b (z 1) (z 0) + errorGain a b * η ^ 2 := by
  have hloss := h.energyLoss_pos
  have hhalf := h.energyLoss_le
  have hgain := h.errorGain_nonneg
  induction n with
  | zero =>
    have herrors : 0 ≤ errorGain a b * η ^ 2 := by positivity
    rw [pow_zero, one_mul]
    linarith
  | succ n ih =>
    have hprev := ih fun k hk => herror k (hk.trans (Nat.lt_succ_self n))
    have hstep := h.energy_step (z (n + 1)) (z n) (z (n + 2) - (a * z (n + 1) - b * z n))
    rw [add_sub_cancel] at hstep
    have hsq : (z (n + 2) - (a * z (n + 1) - b * z n)) ^ 2 ≤ η ^ 2 := by
      rw [← sq_abs]
      exact pow_le_pow_left₀ (abs_nonneg _) (herror n (Nat.lt_succ_self n)) 2
    generalize energyLoss a b = θ at *
    calc energy a b (z (n + 2)) (z (n + 1))
        ≤ (1 - θ) * energy a b (z (n + 1)) (z n) +
            θ * errorGain a b * (z (n + 2) - (a * z (n + 1) - b * z n)) ^ 2 := hstep
      _ ≤ (1 - θ) * ((1 - θ) ^ n * energy a b (z 1) (z 0) + errorGain a b * η ^ 2) +
            θ * errorGain a b * η ^ 2 := by
          refine add_le_add (mul_le_mul_of_nonneg_left hprev (by linarith)) ?_
          exact mul_le_mul_of_nonneg_left hsq (by positivity)
      _ = (1 - θ) ^ (n + 1) * energy a b (z 1) (z 0) + errorGain a b * η ^ 2 := by ring

/-- A sequence that obeys a stable recurrence up to an error comes down to a multiple of the error,
geometrically. The constants depend on the recurrence only. -/
theorem recurrence_bounded : ∃ ρ C D : K, 0 ≤ ρ ∧ ρ < 1 ∧ 0 ≤ C ∧ 0 ≤ D ∧
    ∀ (z : ℕ → K) (η : K) (n : ℕ), (∀ k < n, |z (k + 2) - (a * z (k + 1) - b * z k)| ≤ η) →
      z (n + 1) ^ 2 ≤ C * ρ ^ n * (z 0 ^ 2 + z 1 ^ 2) + D * η ^ 2 := by
  have hloss := h.energyLoss_pos
  have hhalf := h.energyLoss_le
  have hgain := h.errorGain_nonneg
  have hbound := h.energyBound_pos
  have hm : 0 < 1 + b - |a| := by linarith [h.sum]
  refine ⟨1 - energyLoss a b, energyBound a b / (1 + b - |a|), errorGain a b / (1 + b - |a|),
    by linarith, by linarith, by positivity, by positivity, fun z η n herror => ?_⟩
  have hpow : 0 ≤ (1 - energyLoss a b) ^ n := pow_nonneg (by linarith) n
  have hsq : (1 + b - |a|) * z (n + 1) ^ 2 ≤
      (1 - energyLoss a b) ^ n * (energyBound a b * (z 0 ^ 2 + z 1 ^ 2)) +
        errorGain a b * η ^ 2 := by
    calc (1 + b - |a|) * z (n + 1) ^ 2 ≤ energy a b (z (n + 1)) (z n) := h.sq_le_energy _ _
      _ ≤ (1 - energyLoss a b) ^ n * energy a b (z 1) (z 0) + errorGain a b * η ^ 2 :=
          h.energy_run herror
      _ ≤ (1 - energyLoss a b) ^ n * (energyBound a b * (z 0 ^ 2 + z 1 ^ 2)) +
            errorGain a b * η ^ 2 := by
          have hle := mul_le_mul_of_nonneg_left (h.energy_le (z 1) (z 0)) hpow
          rw [add_comm (z 1 ^ 2)] at hle
          linarith
  rw [← le_div_iff₀' hm] at hsq
  refine hsq.trans_eq ?_
  field_simp

end StableRoots

end Rptp.Machine
