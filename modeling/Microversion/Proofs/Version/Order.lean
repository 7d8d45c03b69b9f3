import Mathlib.Order.MinMax
import Microversion.Negotiation.Basic

/-! # The order of versions

Versions are linearly ordered, by their major numbers first. What the client
knows of a server's range is capped at the newest version that it knows.
-/

namespace Microversion

namespace Version

variable {v w : Version}

theorem le_iff : v ≤ w ↔ v.major.toNat < w.major.toNat ∨
    (v.major.toNat = w.major.toNat ∧ v.minor.toNat ≤ w.minor.toNat) := by
  rw [← UInt32.lt_iff_toNat_lt, ← UInt32.le_iff_toNat_le, UInt32.toNat_inj]
  rfl

theorem lt_iff : v < w ↔ v.major.toNat < w.major.toNat ∨
    (v.major.toNat = w.major.toNat ∧ v.minor.toNat < w.minor.toNat) := by
  rw [← UInt32.lt_iff_toNat_lt, ← UInt32.lt_iff_toNat_lt, UInt32.toNat_inj]
  rfl

instance : LinearOrder Version where
  le_refl v := by rw [le_iff]; omega
  le_trans u v w := by simp only [le_iff]; omega
  le_antisymm v w h h' := by
    rw [le_iff] at h h'
    have hmajor : v.major = w.major := UInt32.toNat_inj.mp (by omega)
    have hminor : v.minor = w.minor := UInt32.toNat_inj.mp (by omega)
    cases v; cases w; cases hmajor; cases hminor; rfl
  le_total v w := by simp only [le_iff]; omega
  lt_iff_le_not_ge v w := by simp only [le_iff, lt_iff]; omega
  toDecidableLE := inferInstance
  min_def v w := rfl
  max_def v w := rfl

end Version

namespace Negotiator

variable {min max : Version}

theorem cap_le (max : Version) : cap max ≤ Version.latestKnown := min_le_right _ _

/-- A range without a version that the client knows ends below its beginning once it is capped. -/
theorem cap_lt_iff :
    cap max < min ↔ ∀ v, v ≤ Version.latestKnown → ¬(min ≤ v ∧ v ≤ max) := by
  constructor
  · rintro h v hv ⟨hmin, hmax⟩
    exact absurd (le_min hmax hv) (not_le_of_gt (lt_of_lt_of_le h hmin))
  · intro h
    by_contra hle
    exact h (cap max) (cap_le max) ⟨not_lt.mp hle, min_le_left _ _⟩

end Negotiator

end Microversion
