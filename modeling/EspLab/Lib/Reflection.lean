import Mathlib.Data.Int.Notation
import Mathlib.Tactic.Common

/-!
# Reflection between two walls

A point that moves one unit per step on `[0, L]` and turns at both ends is where its phase, a
counter that only grows, says: `reflect L p`, with period `2 * L`.

* `reflect_succ` is the law of motion, and `rising_succ_iff_of_wall` and
  `rising_succ_iff_of_inside` say that the direction changes exactly at the walls.
* `reflect_emod_two`: position and phase have the same parity.
-/

namespace EspLab
namespace Reflection

/-- The position at phase `p`. -/
def reflect (L p : ℤ) : ℤ := if p % (2 * L) ≤ L then p % (2 * L) else 2 * L - p % (2 * L)

/-- The point moves up from phase `p` to the next. -/
def Rising (L p : ℤ) : Prop := p % (2 * L) < L

instance (L p : ℤ) : Decidable (Rising L p) := inferInstanceAs (Decidable (p % (2 * L) < L))

variable {L : ℤ} (hL : 0 < L) (p : ℤ)
include hL

lemma emod_bounds : 0 ≤ p % (2 * L) ∧ p % (2 * L) < 2 * L :=
  ⟨Int.emod_nonneg p (by omega), Int.emod_lt_of_pos p (by omega)⟩

/-- The phase within a period grows by one, and starts anew at the end of the period. -/
lemma emod_succ :
    (p + 1) % (2 * L) = if p % (2 * L) + 1 = 2 * L then 0 else p % (2 * L) + 1 := by
  obtain ⟨hlo, hhi⟩ := emod_bounds hL p
  have hmod : (p + 1) % (2 * L) = (p % (2 * L) + 1) % (2 * L) := (Int.emod_add_emod ..).symm
  rw [hmod]
  split
  · next heq => rw [heq, Int.emod_self]
  · exact Int.emod_eq_of_lt (by omega) (by omega)

lemma reflect_nonneg : 0 ≤ reflect L p := by
  obtain ⟨hlo, hhi⟩ := emod_bounds hL p
  unfold reflect
  split <;> omega

lemma reflect_le : reflect L p ≤ L := by
  obtain ⟨hlo, hhi⟩ := emod_bounds hL p
  unfold reflect
  split <;> omega

/-- The law of motion. -/
theorem reflect_succ : reflect L (p + 1) = reflect L p + if Rising L p then 1 else -1 := by
  obtain ⟨hlo, hhi⟩ := emod_bounds hL p
  have hsucc := emod_succ hL p
  unfold reflect Rising
  rw [hsucc]
  split_ifs <;> omega

/-- At a wall the point turns. -/
theorem rising_succ_iff_of_wall (hwall : reflect L (p + 1) = 0 ∨ reflect L (p + 1) = L) :
    Rising L (p + 1) ↔ ¬ Rising L p := by
  obtain ⟨hlo, hhi⟩ := emod_bounds hL p
  have hsucc := emod_succ hL p
  unfold reflect at hwall
  unfold Rising
  rw [hsucc] at hwall ⊢
  split_ifs at hwall ⊢ <;> omega

/-- Between the walls it keeps its direction. -/
theorem rising_succ_iff_of_inside (hlo' : reflect L (p + 1) ≠ 0) (hhi' : reflect L (p + 1) ≠ L) :
    Rising L (p + 1) ↔ Rising L p := by
  obtain ⟨hlo, hhi⟩ := emod_bounds hL p
  have hsucc := emod_succ hL p
  unfold reflect at hlo' hhi'
  unfold Rising
  rw [hsucc] at hlo' hhi' ⊢
  split_ifs at hlo' hhi' ⊢ <;> omega

omit hL in
/-- Position and phase have the same parity. -/
theorem reflect_emod_two : reflect L p % 2 = p % 2 := by
  have hdiv : p % (2 * L) % 2 = p % 2 := Int.emod_emod_of_dvd p ⟨L, rfl⟩
  unfold reflect
  split <;> omega

/-! ## The first period -/

variable {p}

lemma reflect_of_up (h0 : 0 ≤ p) (hle : p ≤ L) : reflect L p = p := by
  have hmod : p % (2 * L) = p := Int.emod_eq_of_lt h0 (by omega)
  rw [reflect, hmod, if_pos hle]

lemma reflect_of_down (hlt : L < p) (hle : p ≤ 2 * L) : reflect L p = 2 * L - p := by
  unfold reflect
  by_cases hend : p = 2 * L
  · rw [hend, Int.emod_self, if_pos (by omega)]
    omega
  · have hmod : p % (2 * L) = p := Int.emod_eq_of_lt (by omega) (by omega)
    rw [hmod, if_neg (by omega)]

lemma rising_of_lt (h0 : 0 ≤ p) (hlt : p < L) : Rising L p := by
  have hmod : p % (2 * L) = p := Int.emod_eq_of_lt h0 (by omega)
  rwa [Rising, hmod]

omit hL in
lemma not_rising_of_le (hle : L ≤ p) (hlt : p < 2 * L) : ¬ Rising L p := by
  have hmod : p % (2 * L) = p := Int.emod_eq_of_lt (by omega) hlt
  rw [Rising, hmod]
  omega

end Reflection
end EspLab
