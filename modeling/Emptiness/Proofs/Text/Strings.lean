import Emptiness.Text.Basic
import Mathlib.Data.List.Basic

/-!
# Strings among texts

Strings are texts, and different ones are different texts. A text is a string exactly if none of its code points is half
a surrogate pair.
-/

namespace Emptiness.Text

/-- No two characters are the same code point. -/
theorem scalar_injective : Function.Injective CodePoint.scalar := by
  intro c d h
  cases h
  rfl

/-- No two strings are the same text. -/
@[simp]
theorem ofString_inj {s t : String} : ofString s = ofString t ↔ s = t := by
  rw [ofString, ofString, (List.map_injective_iff.mpr scalar_injective).eq_iff, String.toList_inj]

/-- The string without characters is the text without code points. -/
theorem ofString_empty : ofString "" = [] :=
  rfl

/-- The text of a string is as long as the string. -/
@[simp]
theorem length_ofString (s : String) : (ofString s).length = s.length := by
  rw [ofString, List.length_map, String.length_toList]

/-- Only a character is found to be that character. -/
theorem char?_eq_some_iff {point : CodePoint} {c : Char} : point.char? = some c ↔ point = .scalar c := by
  cases point <;> simp [CodePoint.char?]

/-- A text has certain characters and nothing else exactly if it is made of them. -/
theorem mapM_char?_eq_some_iff {text : Text} {chars : List Char} :
    text.mapM CodePoint.char? = some chars ↔ text = chars.map .scalar := by
  induction text generalizing chars with
  | nil => simp [eq_comm]
  | cons point rest ih =>
    simp only [List.mapM_cons, Option.bind_eq_bind, Option.bind_eq_some_iff, Option.pure_def, char?_eq_some_iff, ih]
    constructor
    · rintro ⟨c, rfl, more, rfl, hchars⟩
      cases hchars
      rfl
    · intro h
      obtain ⟨c, more, rfl, rfl, rfl⟩ := List.map_eq_cons_iff.mp h.symm
      exact ⟨c, rfl, more, rfl, rfl⟩

/-- A text is a string exactly if it is the text of it. -/
theorem string?_eq_some_iff {text : Text} {s : String} : text.string? = some s ↔ text = s := by
  rw [string?, Option.map_eq_some_iff]
  simp only [mapM_char?_eq_some_iff]
  constructor
  · rintro ⟨chars, rfl, rfl⟩
    rw [ofString, String.toList_ofList]
  · rintro rfl
    exact ⟨s.toList, rfl, String.ofList_toList⟩

/-- A string is found in its own text. -/
@[simp]
theorem string?_ofString (s : String) : (ofString s).string? = some s :=
  string?_eq_some_iff.mpr rfl

/-- A text is a string exactly if it holds no half of a pair. -/
theorem exists_string_iff {text : Text} : (∃ s : String, text = s) ↔ ∀ place, .half place ∉ text := by
  constructor
  · rintro ⟨s, rfl⟩ place hmem
    obtain ⟨c, -, hc⟩ := List.mem_map.mp hmem
    cases hc
  · intro h
    induction text with
    | nil => exact ⟨"", rfl⟩
    | cons point rest ih =>
      cases point with
      | half place => exact absurd List.mem_cons_self (h place)
      | scalar c =>
        obtain ⟨s, rfl⟩ := ih fun place hmem => h place (List.mem_cons_of_mem _ hmem)
        refine ⟨String.ofList (c :: s.toList), ?_⟩
        rw [ofString, ofString, String.toList_ofList, List.map_cons]

end Emptiness.Text
