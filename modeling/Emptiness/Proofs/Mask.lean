import Emptiness.Rule
import Mathlib.Data.Int.Bitwise

/-!
# Masks as sets of bits

A mask is an integer of any size and sign, and a rule belongs to it when the rule's bit is set in two's complement.
These lemmas read membership as a bit test, which carries over unions, intersections and inclusion of masks without
a bound on their width.
-/

namespace Emptiness

/-- Dividing an integer by a power of two moves the bit at that place to the end, whatever its sign. -/
theorem testBit_eq_div_mod (i : Int) (k : ℕ) : i.testBit k = decide (i / ((2 ^ k : ℕ) : Int) % 2 = 1) := by
  have hpos : 0 < 2 ^ k := Nat.two_pow_pos k
  generalize hd : 2 ^ k = d at hpos
  cases i with
  | ofNat m =>
    rw [Int.testBit, Nat.testBit_eq_decide_div_mod_eq, hd]
    have hdiv : Int.ofNat m / (d : Int) = ((m / d : ℕ) : Int) := rfl
    rw [hdiv]
    generalize m / d = quotient
    apply decide_eq_decide.mpr
    omega
  | negSucc m =>
    rw [Int.testBit, Nat.testBit_eq_decide_div_mod_eq, hd, ← decide_not]
    -- The quotient is rounded down, so its bits are the complement of those of `m / d`.
    have hdiv : Int.negSucc m / (d : Int) = -(((m / d : ℕ) : Int) + 1) :=
      Int.negSucc_ediv m (by exact_mod_cast hpos)
    rw [hdiv]
    generalize m / d = quotient
    apply decide_eq_decide.mpr
    omega

/-- Every rule is among all rules. -/
theorem Rule.mem_all (rule : Rule) : rule ∈ Rule.all := by
  cases rule <;> decide

/-- All rules are listed with their bits ascending. -/
theorem Rule.all_ascending : Rule.all.Pairwise fun a b => a.bit < b.bit := by
  decide

/-- The bit of a rule is a power of two. -/
theorem Rule.bit_eq_two_pow (rule : Rule) : rule.bit = 2 ^ rule.place :=
  Nat.one_shiftLeft rule.place

/-- The mask of a single rule has a bit at the rule's place only. -/
theorem Rule.testBit_bit (rule : Rule) (k : ℕ) : Int.testBit rule.bit k = decide (rule.place = k) := by
  rw [Rule.bit_eq_two_pow]
  exact Nat.testBit_two_pow

/-- Membership of a rule is the bit at its place. -/
theorem Mask.has_eq_testBit (mask : Mask) (rule : Rule) : mask.has rule = Int.testBit mask rule.place := by
  rw [testBit_eq_div_mod, Mask.has, Rule.bit_eq_two_pow, Bool.beq_eq_decide_eq]

/-- A union of masks contains the rules of both. -/
@[simp]
theorem Mask.has_lor (a b : Mask) (rule : Rule) : Mask.has (Int.lor a b) rule = (a.has rule || b.has rule) := by
  simp only [Mask.has_eq_testBit, Int.testBit_lor]

/-- A mask that is included in another contains no rule beyond it. -/
theorem Mask.has_of_land_eq {a b : Mask} (hle : Int.land a b = a) {rule : Rule} (hrule : a.has rule) : b.has rule := by
  rw [← hle, Mask.has_eq_testBit, Int.testBit_land, Bool.and_eq_true] at hrule
  rw [Mask.has_eq_testBit]
  exact hrule.2

/-- Different rules have different bits. -/
theorem Rule.place_injective : Function.Injective Rule.place := by
  intro a b h
  cases a <;> cases b <;> first | rfl | cases h

/-- The mask of a single rule contains that rule alone. -/
@[simp]
theorem Mask.has_bit (rule other : Rule) : Mask.has (rule.bit : Int) other = decide (rule = other) := by
  rw [Mask.has_eq_testBit, Rule.testBit_bit]
  exact decide_eq_decide.mpr Rule.place_injective.eq_iff

/-- The mask and a pattern of bits have a bit in common. -/
def Mask.meets (mask : Mask) (bits : Nat) : Bool :=
  Int.land mask bits != 0

/-- Far out every bit of a number is clear, or every bit is set if the number is negative. -/
theorem testBit_far {i : Int} {k : ℕ} (h : i.natAbs ≤ k) : i.testBit k = true ↔ i < 0 := by
  have hfar {m : ℕ} (hm : m ≤ k) : m.testBit k = false :=
    Nat.testBit_lt_two_pow (Nat.lt_of_le_of_lt hm Nat.lt_two_pow_self)
  cases i with
  | ofNat m =>
    have hclear : m.testBit k = false := hfar h
    rw [Int.testBit, hclear]
    exact iff_of_false Bool.false_ne_true (Int.not_lt.mpr (Int.natCast_nonneg m))
  | negSucc m =>
    rw [Int.testBit, hfar (Nat.le_of_lt h)]
    exact iff_of_true rfl (Int.negSucc_lt_zero m)

/-- An integer is known by its bits. -/
theorem eq_of_testBit {i j : Int} (h : ∀ k, i.testBit k = j.testBit k) : i = j := by
  have hsign : i < 0 ↔ j < 0 := by
    rw [← testBit_far (Nat.le_add_right i.natAbs j.natAbs), h, testBit_far (Nat.le_add_left _ _)]
  cases i with
  | ofNat m =>
    cases j with
    | ofNat n => exact congrArg Int.ofNat (Nat.eq_of_testBit_eq h)
    | negSucc n => exact absurd (hsign.mpr (Int.negSucc_lt_zero n)) (Int.not_lt.mpr (Int.natCast_nonneg m))
  | negSucc m =>
    cases j with
    | ofNat n => exact absurd (hsign.mp (Int.negSucc_lt_zero m)) (Int.not_lt.mpr (Int.natCast_nonneg n))
    | negSucc n => exact congrArg Int.negSucc (Nat.eq_of_testBit_eq fun k => Bool.not_inj (h k))

/-- Only zero has no bits. -/
theorem eq_zero_of_testBit {i : Int} (h : ∀ k, i.testBit k = false) : i = 0 :=
  eq_of_testBit fun k => (h k).trans (Nat.zero_testBit k).symm

/-- Membership of a rule is a bit in common with the rule's own mask. -/
theorem Mask.has_eq_meets (mask : Mask) (rule : Rule) : mask.has rule = mask.meets rule.bit := by
  have hland (k : ℕ) : (Int.land mask rule.bit).testBit k = (mask.testBit k && decide (rule.place = k)) := by
    rw [Int.testBit_land, Rule.testBit_bit]
  rw [Mask.has_eq_testBit, Mask.meets]
  cases hbit : mask.testBit rule.place with
  | true =>
    have hset : (Int.land mask rule.bit).testBit rule.place = true := by simp [hland, hbit]
    have hne : Int.land mask rule.bit ≠ 0 := fun hzero => by simp [hzero, Int.testBit] at hset
    exact (bne_iff_ne.mpr hne).symm
  | false =>
    have hnone (k : ℕ) : (Int.land mask rule.bit).testBit k = false := by
      rw [hland]
      by_cases hk : rule.place = k
      · rw [← hk, hbit, Bool.false_and]
      · simp [hk]
    rw [eq_zero_of_testBit hnone]
    rfl

end Emptiness
