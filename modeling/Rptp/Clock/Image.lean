import Rptp.Clock.Dataset
import Rptp.Machine.Lexicographic

/-! # The comparison of data sets on their wire image

The first fourteen octets of a serialised data set hold everything the comparison of different
clocks looks at, in the order it looks at it. The comparison is therefore the lexicographic order of
these octets, whichever representation of a class or an accuracy the data sets hold.
-/

namespace Rptp

open Machine Std

namespace ClockQuality

theorem toWire_toList (q : ClockQuality) :
    q.toWire.toList = [q.clockClass.asU8, q.clockAccuracy.asU8] ++
      toBe 2 q.offsetScaledLogVariance.toNat := rfl

theorem compare_toWire (a b : ClockQuality) :
    compare a.toWire.toList b.toWire.toList = compare a b := by
  have hquality : compare a b = (compare a.clockClass.asU8 b.clockClass.asU8).then
      ((compare a.clockAccuracy.asU8 b.clockAccuracy.asU8).then
        (compare a.offsetScaledLogVariance b.offsetScaledLogVariance)) := rfl
  rw [toWire_toList, toWire_toList, compare_append (by simp), compare_toBe_uint16, hquality,
    ← Ordering.then_assoc, List.compare_cons_cons, List.compare_cons_cons]
  simp

end ClockQuality

namespace ClockDS

/-- The octets of a serialised data set up to the steps removed. -/
def image (ds : ClockDS) : List UInt8 := ds.toWire.toList.take 14

theorem image_eq (ds : ClockDS) :
    ds.image = [ds.priority1.value] ++
      (ds.quality.toWire.toList ++ ([ds.priority2.value] ++ ds.identity.id.toList)) := by
  have hwire : ds.toWire.toList = ([ds.priority1.value] ++
      (ds.quality.toWire.toList ++ ([ds.priority2.value] ++ ds.identity.id.toList))) ++
        toBe 2 ds.stepsRemoved.value.toNat := by
    simp [toWire]
  rw [image, hwire]
  exact List.take_left' (by simp)

/-- The lexicographic order of the fields is that of the octets. -/
theorem compare_image (a b : ClockDS) : Ord.compare a.image b.image = lexicographic a b := by
  have hfields : lexicographic a b = (Ord.compare a.priority1.value b.priority1.value).then
      ((Ord.compare a.quality b.quality).then
        ((Ord.compare a.priority2.value b.priority2.value).then
          (Ord.compare a.identity.id.toList b.identity.id.toList))) := rfl
  rw [image_eq, image_eq, compare_append (by simp), compare_append (by simp),
    compare_append (by simp), ClockQuality.compare_toWire, hfields]
  simp [List.compare_cons_cons]

/-- Data sets of different clocks compare as their images do. -/
theorem compare_iff_image {a b : ClockDS} (h : a.identity ≠ b.identity) :
    (a.compare b = .ok .better ↔ a.toWire.toList.take 14 < b.toWire.toList.take 14) ∧
      (a.compare b = .ok .worse ↔ ¬ a.toWire.toList.take 14 < b.toWire.toList.take 14) := by
  have hlt : a.toWire.toList.take 14 < b.toWire.toList.take 14 ↔ lexicographic a b = .lt := by
    rw [lt_iff_compare, ← compare_image]
    rfl
  rw [hlt]
  rcases compare_of_identity_ne h with ⟨hl, hc⟩ | ⟨hl, hc⟩
  · simp [hl, hc]
  · simp [hl, hc]

theorem representedDs_octets (identity : UInt8) : [identity, 0, 0, 0, 0, 0, 0, 0].length = 8 := rfl

/-- A data set with a class and an accuracy that need not be in canonical form. -/
def representedDs (identity : UInt8) (clockClass : ClockClass) (clockAccuracy : ClockAccuracy) :
    ClockDS where
  identity := ⟨Octets.ofList [identity, 0, 0, 0, 0, 0, 0, 0] (representedDs_octets identity)⟩
  priority1 := ⟨128⟩
  priority2 := ⟨128⟩
  quality := ⟨clockClass, clockAccuracy, 0x4e5d⟩
  stepsRemoved := ⟨0⟩

/-- Two representations of class 6 and of accuracy `0x20` tie, and the identity decides. -/
theorem compare_iff_image_represented :
    (representedDs 1 (.reserved 6) .within25ns).compare
        (representedDs 2 .primaryReference (.alternateProfile 0x20)) = .ok .better ∧
      (representedDs 2 .primaryReference (.alternateProfile 0x20)).compare
        (representedDs 1 (.reserved 6) .within25ns) = .ok .worse :=
  ⟨(compare_iff_image (by decide)).1.mpr (by decide),
    (compare_iff_image (by decide)).2.mpr (by decide)⟩

end ClockDS

end Rptp
