import Emptiness.Proofs.RuleName.Spelling
import Emptiness.Proofs.Text.Blank
import Emptiness.Proofs.Verdict.Composite

/-!
# Texts of white space only

The rule about blank text asks for one or more characters, all of them white space, and the rule about the empty text
takes the one text that is left over. Together they find the texts of which nothing is left when white space is removed
at both ends, as it is removed around rule names, and so no such text is a name. Under every mask that contains the two
rules, further white space around a text makes no difference, unless the text between is `0`: then the mask may contain
the rule about that text, which looks at all of it.
-/

namespace Emptiness

/-- All characters of a text are white space exactly if nothing is left of it when white space is removed. -/
theorem Value.isBlankText_iff_strip (s : Text) : (Value.text s).IsBlankText ↔ Text.strip s = [] := by
  rw [Text.strip, Text.trim_eq_nil_iff]
  constructor
  · rintro ⟨other, hother, hblank⟩
    rwa [Value.text.inj hother]
  · intro hblank
    exact ⟨s, rfl, hblank⟩

/-- Under a mask with the rules about empty and about blank text, a text is empty exactly if nothing is left of it when
white space is removed, or if it is the text `0` and the mask has the rule about that. -/
theorem emptyExactlyIf_text (s : Text) {mask : Mask} (hstring : mask.has .string = true)
    (hspace : mask.has .space = true) :
    EmptyExactlyIf (.text s) mask (Text.strip s = [] ∨ mask.has .zero = true ∧ s = "0") := by
  rw [← Value.isBlankText_iff_strip]
  refine emptyExactlyIf_of_finds (.text s) ⟨?_, ?_⟩
  · rintro ⟨rule, hhas, hfinds⟩
    have hmem : rule ∈ [Rule.space, .zero, .string] := Rule.mem_forShape_of_findsEmpty hfinds
    have hrule : rule = .space ∨ rule = .zero ∨ rule = .string := by simpa using hmem
    rcases hrule with rfl | rfl | rfl
    · exact .inl hfinds.2
    · exact .inr ⟨hhas, Value.text.inj hfinds⟩
    · exact .inl ⟨"", hfinds, nofun⟩
  · rintro (hblank | ⟨hzero, rfl⟩)
    · by_cases hempty : Value.text s = .text ""
      · exact ⟨.string, hstring, hempty⟩
      · exact ⟨.space, hspace, hempty, hblank⟩
    · exact ⟨.zero, hzero, rfl⟩

-- The text `0` is empty by a rule of its own, but not with a blank before it.
example : isEmptyUnder (.text "0") (-1) = .ok true ∧ isEmptyUnder (.text " 0") (-1) = .ok false :=
  ⟨rfl, rfl⟩

/-- A text of white space only is no name of a rule. -/
theorem RuleName.find?_of_strip_eq_nil {s : Text} (h : Text.strip s = []) : find? s = none := by
  rw [Option.eq_none_iff_forall_ne_some]
  intro name hfound
  have hwritten : ∀ name ∈ inOrder, Text.ofString name.text ≠ [] := by decide +kernel
  have hname := find?_eq_some_iff_lower.mp hfound
  rw [h] at hname
  exact hwritten name name.mem_inOrder_names hname.symm

/-- The rule about blank text finds the texts that one or more white space characters match as a whole, which are those
that are not empty and of which nothing is left when white space is removed at both ends. With the rule about the empty
text it finds all of which nothing is left, and none of these is a name. A mask with both rules finds them also between
further white space, and finds no text of which something other than `0` is left. -/
theorem space_agrees_with_strip (s : Text) :
    (∃ isSpace : Bool, Rule.space.holds (.text s) = .ok isSpace ∧
      (isSpace = true ↔ s ∈ Text.oneOrMoreOf CodePoint.isBlank) ∧
      (isSpace = true ↔ s ≠ "" ∧ Text.strip s = [])) ∧
    EmptyExactlyIf (.text s) (Int.lor Rule.string.bit Rule.space.bit) (Text.strip s = []) ∧
    (Text.strip s = [] → RuleName.find? s = none) ∧
    ∀ (mask : Mask) (front back : Text), mask.has .string = true → mask.has .space = true →
      (∀ point ∈ front, point.isBlank = true) → (∀ point ∈ back, point.isBlank = true) →
      (Text.strip s = [] → isEmptyUnder (.text (front ++ s ++ back)) mask = .ok true) ∧
      (Text.strip s ≠ [] → Text.strip s ≠ "0" →
        isEmptyUnder (.text (front ++ s ++ back)) mask = .ok false) := by
  refine ⟨⟨Text.allBlank s, rfl, Text.allBlank_iff_mem, Text.allBlank_iff_strip⟩, ?_,
    RuleName.find?_of_strip_eq_nil, ?_⟩
  · have hpair : EmptyExactlyIf (.text s) (Int.lor Rule.string.bit Rule.space.bit) _ :=
      emptyExactlyIf_text s (by decide) (by decide)
    have hzero : Mask.has (Int.lor Rule.string.bit Rule.space.bit) .zero = false := by decide
    simpa only [hzero, Bool.false_eq_true, false_and, or_false] using hpair
  · intro mask front back hstring hspace hfront hback
    have hexact := emptyExactlyIf_text (front ++ s ++ back) hstring hspace
    have hstrip : Text.strip (front ++ s ++ back) = Text.strip s := Text.strip_append hfront hback
    rw [hstrip] at hexact
    refine ⟨fun hblank => hexact.of_holds (.inl hblank), fun hleft hother => hexact.of_not_holds ?_⟩
    rintro (hblank | ⟨-, hwhole⟩)
    · exact hleft hblank
    · -- if the whole were the text `0`, then `0` would be left
      rw [hwhole] at hstrip
      exact hother (hstrip.symm.trans (by decide))

/-- An em space, an information separator and a next line are white space only, so they are no name, and empty under the
mask of everything with further white space around them. A zero width space is no white space, and not empty. -/
theorem space_agrees_with_strip_of_separators :
    let front : Text := "\u3000"
    let back : Text := "\x1f\n"
    let blank : Text := "\u2003\x1c\x85"
    let narrow : Text := "\u200b"
    Text.strip blank = [] ∧ RuleName.find? blank = none ∧
      isEmptyUnder (.text (front ++ blank ++ back)) (-1) = .ok true ∧
      Text.strip narrow ≠ [] ∧ Text.strip narrow ≠ "0" ∧
      isEmptyUnder (.text (front ++ narrow ++ back)) (-1) = .ok false := by
  intro front back blank narrow
  have hfront : ∀ point ∈ front, point.isBlank = true := List.all_eq_true.mp (by decide)
  have hback : ∀ point ∈ back, point.isBlank = true := List.all_eq_true.mp (by decide)
  have hblank : Text.strip blank = [] := by decide
  have hleft : Text.strip narrow ≠ [] := by decide
  have hother : Text.strip narrow ≠ "0" := by decide
  obtain ⟨-, -, hname, hempty⟩ := space_agrees_with_strip blank
  obtain ⟨-, -, -, hvisible⟩ := space_agrees_with_strip narrow
  exact ⟨hblank, hname hblank, (hempty (-1) _ _ (by decide) (by decide) hfront hback).1 hblank, hleft, hother,
    (hvisible (-1) _ _ (by decide) (by decide) hfront hback).2 hleft hother⟩

end Emptiness
