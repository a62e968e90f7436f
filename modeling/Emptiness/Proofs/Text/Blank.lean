import Emptiness.Proofs.Text.Trim
import Mathlib.Computability.Language

/-!
# Blank text as a pattern

A class of characters is a pattern that matches any one of them, and repeating it matches the texts that hold nothing
else. So the pattern of one or more white space characters matches a whole text exactly if the text is not empty and
nothing is left of it when white space is removed at both ends: wherever another character stands, the match fails and
the removal leaves it.
-/

namespace Emptiness.Text

open scoped Computability

variable {α : Type} {inClass : α → Bool}

/-- The texts of a single character of a class. -/
def oneOf (inClass : α → Bool) : Language α :=
  {text | ∃ c, inClass c = true ∧ text = [c]}

/-- The texts of one or more characters of a class. -/
def oneOrMoreOf (inClass : α → Bool) : Language α :=
  oneOf inClass * (oneOf inClass)∗

/-- A class that is repeated matches the texts of its characters. -/
theorem mem_kstar_oneOf_iff {text : List α} : text ∈ (oneOf inClass)∗ ↔ ∀ c ∈ text, inClass c = true := by
  rw [Language.mem_kstar]
  constructor
  · rintro ⟨parts, rfl, hparts⟩ c hc
    obtain ⟨part, hpart, hmem⟩ := List.mem_flatten.mp hc
    obtain ⟨only, honly, rfl⟩ := hparts part hpart
    rwa [List.mem_singleton.mp hmem]
  · intro h
    -- every character is a part of its own
    have hparts : text = (text.map fun c => [c]).flatten := by
      rw [← List.flatMap_def, List.flatMap_singleton']
    refine ⟨_, hparts, fun part hpart => ?_⟩
    obtain ⟨c, hc, rfl⟩ := List.mem_map.mp hpart
    exact ⟨c, h c hc, rfl⟩

/-- One or more characters of a class are a text that is not empty and has no other characters. -/
theorem mem_oneOrMoreOf_iff {text : List α} :
    text ∈ oneOrMoreOf inClass ↔ text ≠ [] ∧ ∀ c ∈ text, inClass c = true := by
  rw [oneOrMoreOf, Language.mem_mul]
  constructor
  · rintro ⟨_, ⟨first, hfirst, rfl⟩, rest, hrest, rfl⟩
    exact ⟨List.cons_ne_nil first rest, List.forall_mem_cons.mpr ⟨hfirst, mem_kstar_oneOf_iff.mp hrest⟩⟩
  · rintro ⟨hne, h⟩
    cases text with
    | nil => exact absurd rfl hne
    | cons first rest =>
      obtain ⟨hfirst, hrest⟩ := List.forall_mem_cons.mp h
      exact ⟨[first], ⟨first, hfirst, rfl⟩, rest, mem_kstar_oneOf_iff.mpr hrest, rfl⟩

/-- Text is blank exactly if the pattern of one or more white space characters matches the whole of it. -/
theorem allBlank_iff_mem {text : Text} : allBlank text = true ↔ text ∈ oneOrMoreOf CodePoint.isBlank := by
  rw [mem_oneOrMoreOf_iff]
  cases text with
  | nil => exact iff_of_false Bool.false_ne_true fun h => h.1 rfl
  | cons first rest =>
    rw [allBlank, Bool.and_eq_true, List.all_eq_true, List.forall_mem_cons,
      and_iff_right (List.cons_ne_nil first rest)]

/-- Text is blank exactly if it is not empty and nothing is left of it when white space is removed at both ends. -/
theorem allBlank_iff_strip {text : Text} : allBlank text = true ↔ text ≠ [] ∧ strip text = [] := by
  rw [allBlank_iff_mem, mem_oneOrMoreOf_iff, strip, trim_eq_nil_iff]

end Emptiness.Text
