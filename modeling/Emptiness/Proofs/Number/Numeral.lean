import Emptiness.Number.Numeral

/-!
# Digits of numbers

The digits of a number are at least one, all of them decimal, and the first is a zero only for zero. Conversely a run of
digits stands for a number of no more digits than it has itself.
-/

namespace Emptiness.Number

/-- The digits of a number are decimal digits. -/
theorem isDigit_of_mem_digits {n : Nat} {c : Char} (h : c ∈ digits n) : c.isDigit = true :=
  Nat.isDigit_of_mem_toDigits (by decide) (by decide) h

/-- The digits of a number begin with a digit. -/
theorem exists_isDigit_cons (n : Nat) : ∃ first rest, digits n = first :: rest ∧ first.isDigit = true := by
  obtain ⟨first, rest, hdigits⟩ := List.exists_cons_of_ne_nil (Nat.toDigits_ne_nil : digits n ≠ [])
  exact ⟨first, rest, hdigits, isDigit_of_mem_digits (hdigits ▸ List.mem_cons_self)⟩

/-- The digits of a positive number do not begin with a zero. -/
theorem exists_digits_eq_cons {n : Nat} (hpos : 0 < n) : ∃ first rest, digits n = first :: rest ∧ first ≠ '0' := by
  induction n using Nat.strongRecOn with
  | ind n ih =>
    rw [digits, Nat.toDigits_eq_if (by decide)]
    split
    case isTrue =>
      refine ⟨n.digitChar, [], rfl, fun hzero => ?_⟩
      rw [Nat.digitChar_eq_zero] at hzero
      omega
    case isFalse hlarge =>
      obtain ⟨first, rest, hdigits, hfirst⟩ := ih (n / 10) (by omega) (by omega)
      rw [digits] at hdigits
      exact ⟨first, rest ++ [(n % 10).digitChar], by rw [hdigits, List.cons_append], hfirst⟩

/-- A decimal digit stands for a number below ten. -/
theorem digit_lt {c : Char} (h : c.isDigit = true) : c.toNat - '0'.toNat < 10 := by
  have hbounds := Char.isDigit_iff_toNat.mp h
  have hnine : '9'.toNat = '0'.toNat + 9 := rfl
  omega

/-- A run of digits stands for a number below the power of ten with as many zeros. -/
theorem ofDigits_lt {text : List Char} (h : ∀ c ∈ text, c.isDigit = true) : ofDigits text < Nat.pow 10 text.length := by
  have hfrom (start : Nat) : Nat.ofDigitChars 10 text start < (start + 1) * Nat.pow 10 text.length := by
    induction text generalizing start with
    | nil => simp [Nat.ofDigitChars_nil]
    | cons c rest ih =>
      have hfirst := digit_lt (h c List.mem_cons_self)
      have hrest := ih (fun d hd => h d (List.mem_cons_of_mem c hd)) (10 * start + (c.toNat - '0'.toNat))
      have hstep : 10 * start + (c.toNat - '0'.toNat) + 1 ≤ (start + 1) * 10 := by omega
      rw [Nat.ofDigitChars_cons, List.length_cons]
      calc
        _ < (10 * start + (c.toNat - '0'.toNat) + 1) * Nat.pow 10 rest.length := hrest
        _ ≤ (start + 1) * 10 * Nat.pow 10 rest.length := Nat.mul_le_mul_right _ hstep
        _ = (start + 1) * Nat.pow 10 (rest.length + 1) := by rw [Nat.mul_assoc, Nat.mul_comm 10]; rfl
  have hall := hfrom 0
  rw [Nat.zero_add, Nat.one_mul] at hall
  exact hall

/-- A run of at most as many digits as a numeral may have stands for a number whose numeral is not too long. -/
theorem ofDigits_lt_numeralBound {text : List Char} (h : ∀ c ∈ text, c.isDigit = true)
    (hlength : text.length ≤ digitLimit) : ofDigits text < numeralBound := by
  have hbound : Nat.pow 10 text.length ≤ numeralBound := by
    unfold numeralBound
    -- The bound is not to be evaluated: it has thousands of digits.
    generalize digitLimit = limit at hlength ⊢
    exact Nat.pow_le_pow_right (by decide) hlength
  exact Nat.lt_of_lt_of_le (ofDigits_lt h) hbound

end Emptiness.Number
