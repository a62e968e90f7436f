import Emptiness.Proofs.Mask
import Emptiness.Proofs.Text.Lowercase
import Emptiness.RuleName
import Mathlib.Data.List.Basic

/-!
# Names and the rules that they stand for

The mask of a list of rules has the bits of these rules and no others, so it is part of another mask exactly if that
contains each of the rules. Among all names, in the order in which they are listed, those of single rules come with
their bits ascending. A name is found by its text and its text by its mask, so the two tables agree.
-/

namespace Emptiness

namespace RuleName

/-- The mask of some rules has the bits of these rules. -/
theorem testBit_maskOf (rules : List Rule) (place : Nat) :
    (maskOf rules).testBit place = true ↔ ∃ rule ∈ rules, rule.place = place := by
  have hfold (start : Nat) : (rules.foldl (fun mask rule => mask ||| rule.bit) start).testBit place = true ↔
      start.testBit place = true ∨ ∃ rule ∈ rules, rule.place = place := by
    induction rules generalizing start with
    | nil => simp
    | cons rule rest ih =>
      rw [List.foldl_cons, ih, Nat.testBit_or, Bool.or_eq_true, or_assoc, List.exists_mem_cons_iff,
        Rule.bit_eq_two_pow, Nat.testBit_two_pow, decide_eq_true_eq]
  rw [maskOf, hfold]
  simp

/-- The mask of some rules is part of another exactly if all of them belong to it. -/
theorem land_maskOf_eq_iff {mask : Nat} {rules : List Rule} :
    mask &&& maskOf rules = maskOf rules ↔ ∀ rule ∈ rules, Mask.has mask rule = true := by
  constructor
  · intro h rule hrule
    have hbit : (maskOf rules).testBit rule.place = true := (testBit_maskOf rules _).mpr ⟨rule, hrule, rfl⟩
    rw [← h, Nat.testBit_and, Bool.and_eq_true] at hbit
    rw [Mask.has_eq_testBit]
    exact hbit.1
  · intro h
    refine Nat.eq_of_testBit_eq fun place => ?_
    rw [Nat.testBit_and, Bool.and_eq_right_iff_imp, testBit_maskOf]
    rintro ⟨rule, hrule, rfl⟩
    have hhas := h rule hrule
    rwa [Mask.has_eq_testBit] at hhas

/-- Every name is listed. -/
theorem mem_inOrder_names (name : RuleName) : name ∈ inOrder := by
  cases name with
  | single rule => cases rule <;> decide
  | php => decide
  | all => decide

/-- No two names are written alike. -/
theorem text_injective : Function.Injective text := by
  have hlisted : ∀ a ∈ inOrder, ∀ b ∈ inOrder, a.text = b.text → a = b := by decide +kernel
  exact fun a b => hlisted a a.mem_inOrder_names b b.mem_inOrder_names

/-- Every name is found by its own text. -/
theorem find?_text (name : RuleName) : find? name.text = some name := by
  have hstrip : ∀ name ∈ inOrder, Text.strip name.text = name.text := by decide +kernel
  -- As a Boolean test: deciding the statement itself may go through all characters instead of those of a name.
  have hsmall : (inOrder.all fun name =>
      name.text.toList.all fun c => decide (0x5a < c.toNat ∧ c.toNat < 0xc0)) = true := by decide +kernel
  simp only [List.all_eq_true, decide_eq_true_eq] at hsmall
  have hfound : ∀ name ∈ inOrder, inOrder.find? (fun other => Text.ofString other.text == name.text) = some name := by
    decide +kernel
  have hmem := name.mem_inOrder_names
  have hlower : Text.lower name.text = name.text := Text.lower_of_small (hsmall name hmem)
  rw [find?, hstrip name hmem, hlower, hfound name hmem]

/-- The name of a single rule stands for the rule's own bit. -/
theorem mask_single (rule : Rule) : (RuleName.single rule).mask = rule.bit :=
  Nat.zero_or rule.bit

end RuleName

/-- The bits of the full mask are those of the rules. -/
theorem testBit_fullMask (place : Nat) : fullMask.testBit place = true ↔ ∃ rule : Rule, rule.place = place := by
  have hfull : fullMask = RuleName.maskOf Rule.all := rfl
  rw [hfull, RuleName.testBit_maskOf]
  simp only [Rule.mem_all, true_and]

/-- The mask of a name is labelled with the text of this name. -/
theorem Mask.label_mask (name : RuleName) : Mask.label name.mask = name.text := by
  have hfound : ∀ name ∈ RuleName.inOrder,
      RuleName.inOrder.find? (fun other => (other.mask : Int) == name.mask) = some name := by decide +kernel
  rw [Mask.label, hfound name name.mem_inOrder_names]

end Emptiness
