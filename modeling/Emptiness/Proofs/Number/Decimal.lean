import Emptiness.Number.Decimal
import Mathlib.Tactic.Ring

/-!
# Integers among the decimal numbers

Lowest terms keep the number, so they tell any two integers apart.
-/

namespace Emptiness.Number.Decimal

/-- Moving zeros into the exponent leaves the number as it is. -/
theorem lowestFrom_value (coefficient : Nat) (exponent : Int) :
    ∃ zeros : ℕ, (lowestFrom coefficient exponent).2 = exponent + zeros ∧
      coefficient = (lowestFrom coefficient exponent).1 * 10 ^ zeros := by
  fun_induction lowestFrom coefficient exponent with
  | case1 coefficient exponent _ ih =>
    obtain ⟨zeros, hexponent, hcoefficient⟩ := ih
    refine ⟨zeros + 1, by push_cast; omega, ?_⟩
    rw [pow_succ, ← Nat.mul_assoc, ← hcoefficient]
    omega
  | case2 coefficient exponent _ => exact ⟨0, by simp, by simp⟩

/-- Different integers have different lowest terms. -/
theorem lowest_ofInt_injective : Function.Injective fun i : Int => (ofInt i).lowest := by
  intro i j h
  obtain ⟨zeros, hexponent, hcoefficient⟩ := lowestFrom_value i.natAbs 0
  obtain ⟨zeros', hexponent', hcoefficient'⟩ := lowestFrom_value j.natAbs 0
  simp only [ofInt, lowest] at h
  split at h <;> split at h
  · omega
  · simp only [finite.injEq] at h
    rw [← h.2.1] at hcoefficient'
    omega
  · simp only [finite.injEq] at h
    rw [h.2.1] at hcoefficient
    omega
  · obtain ⟨hsign, hdigits, hplaces⟩ := by simpa only [finite.injEq] using h
    have hzeros : zeros = zeros' := by omega
    have hsize : i.natAbs = j.natAbs := by rw [hcoefficient, hcoefficient', hdigits, hzeros]
    have hnegative : i < 0 ↔ j < 0 := decide_eq_decide.mp hsign
    omega

end Emptiness.Number.Decimal
