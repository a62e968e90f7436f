import Emptiness.Proofs.Fault
import Emptiness.Selector

/-!
# Selectors give masks of rules

Whatever notation a selector uses, the mask that it is reduced to holds nothing but bits of the eleven rules.
-/

namespace Emptiness

/-- No name stands for more than the eleven rules. -/
theorem RuleName.mask_le (name : RuleName) : name.mask ≤ 2047 := by
  cases name with
  | single rule => cases rule <;> decide
  | php => decide
  | all => decide

namespace Selector

/-- An integer that is a mask lies below the bit after the last rule's. -/
theorem maskOfInt?_le {i : Int} {m : Nat} (h : maskOfInt? i = some m) : m ≤ 2047 := by
  have hfull : fullMask = 2047 := rfl
  rw [maskOfInt?] at h
  split at h
  · cases h
    omega
  · cases h

/-- A name, a mask or flags give a mask of rules. -/
theorem scalarMask_le {v : Value} {m : Nat} (h : scalarMask v = .ok m) : m ≤ 2047 := by
  rw [scalarMask] at h
  split at h
  case h_1 mask hmask =>
    cases h
    unfold scalarMask? at hmask
    split at hmask
    · exact maskOfInt?_le hmask
    · exact maskOfInt?_le hmask
    · obtain ⟨name, -, rfl⟩ := Option.map_eq_some_iff.mp hmask
      exact name.mask_le
    · cases hmask
  case h_2 => cases h

/-- A union of masks of rules is a mask of rules. -/
theorem unionMask_le {start m : Nat} {items : List Value} (hstart : start ≤ 2047)
    (h : unionMask start items = .ok m) : m ≤ 2047 := by
  induction items generalizing start with
  | nil =>
    cases h
    exact hstart
  | cons item rest ih =>
    obtain ⟨more, hmore, hrest⟩ := bind_eq_ok h
    refine ih ?_ hrest
    have hboth : start ||| more < 2 ^ 11 :=
      Nat.or_lt_two_pow (Nat.lt_succ_of_le hstart) (Nat.lt_succ_of_le (scalarMask_le hmore))
    exact Nat.le_of_lt_succ hboth

/-- A selector that is no mapping gives a mask of rules. -/
theorem plainMask_le {v : Value} {m : Nat} (h : plainMask v = .ok m) : m ≤ 2047 := by
  unfold plainMask at h
  split at h
  · cases h
    decide
  · exact unionMask_le (Nat.zero_le _) h
  · exact scalarMask_le h

/-- Any selector gives a mask of rules. -/
theorem mask_le {selector : Value} {m : Nat} (h : mask selector = .ok m) : m ≤ 2047 := by
  obtain ⟨read, -, hread⟩ := bind_eq_ok h
  cases read with
  | none => exact plainMask_le hread
  | some entries =>
    dsimp only at hread
    split at hread
    · cases hread
      decide
    · obtain ⟨inner, -, hinner⟩ := bind_eq_ok hread
      cases inner with
      | none => exact plainMask_le hinner
      | some _ => cases hinner

end Selector

end Emptiness
