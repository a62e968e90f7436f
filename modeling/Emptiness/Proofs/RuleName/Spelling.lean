import Emptiness.Proofs.RuleName
import Emptiness.Proofs.Text.Trim

/-!
# How names are spelled

A name is found in a text that holds it between blanks, in any case of its ASCII letters, and in no other text. The
search goes by the lower case of all characters, but none of the thirteen names has a `k`, the one small letter of ASCII
that a character beyond ASCII has. So no such character can stand for a letter of a name, and it makes no difference
which small form a capital sigma takes.
-/

namespace Emptiness.RuleName

/-- The text holds the name between blanks, up to the case of its ASCII letters. -/
def SpelledBy (name : RuleName) (text : Text) : Prop :=
  ∃ (front : Text) (core : List Char) (back : Text), text = front ++ core.map .scalar ++ back ∧
    (∀ point ∈ front, point.isBlank = true) ∧ (∀ point ∈ back, point.isBlank = true) ∧
    core.map Char.toLower = name.text.toList

/-- Names are written with small letters of ASCII, of which `k` is not used. -/
theorem mem_text {name : RuleName} {c : Char} (h : c ∈ name.text.toList) :
    0x61 ≤ c.toNat ∧ c.toNat ≤ 0x7a ∧ c ≠ 'k' := by
  have hletters : ∀ name ∈ inOrder, name.text.toList.all
      (fun c => decide (0x61 ≤ c.toNat ∧ c.toNat ≤ 0x7a ∧ c ≠ 'k')) = true := by decide +kernel
  exact of_decide_eq_true (List.all_eq_true.mp (hletters name name.mem_inOrder_names) c h)

/-- A name is found in a text exactly if its own text is the lower case of what stands between the blanks. -/
theorem find?_eq_some_iff_lower {text : Text} {name : RuleName} :
    find? text = some name ↔ Text.lower (Text.strip text) = name.text := by
  have hkey {other : RuleName} (h : find? text = some other) : other.text = Text.lower (Text.strip text) := by
    have hmatch := List.find?_some h
    exact beq_iff_eq.mp hmatch
  constructor
  · intro h
    exact (hkey h).symm
  · intro h
    cases hfound : find? text with
    | none =>
      unfold find? at hfound
      exact absurd (beq_iff_eq.mpr h.symm) (List.find?_eq_none.mp hfound name name.mem_inOrder_names)
    | some other => rw [text_injective (Text.ofString_inj.mp ((hkey hfound).trans h))]

/-- A text without its blanks has a name as its lower case exactly if it is the name up to the case of ASCII letters,
whichever small form its capital sigmas take. -/
theorem lowersTo_text_iff {text small : Text} {name : RuleName} (h : Text.LowersTo text small) :
    small = name.text ↔
      ∃ core : List Char, text = core.map .scalar ∧ core.map Char.toLower = name.text.toList := by
  apply h.eq_iff
  intro c hc
  obtain ⟨-, hle, hk⟩ := mem_text hc
  exact ⟨by omega, hk⟩

/-- It does not matter which small form the capital sigmas between the blanks take. -/
theorem find?_eq_some_iff_of_lowersTo {text small : Text} {name : RuleName}
    (h : Text.LowersTo (Text.strip text) small) : find? text = some name ↔ small = name.text := by
  rw [find?_eq_some_iff_lower, lowersTo_text_iff (Text.lowersTo_lower _), lowersTo_text_iff h]

/-- A letter of a name in either case is no blank. -/
theorem isBlank_eq_false_of_toLower {name : RuleName} {c : Char} (h : c.toLower ∈ name.text.toList) :
    Text.isBlank c = false := by
  obtain ⟨hlow, hhigh, -⟩ := mem_text h
  by_cases hascii : c.toNat < 0x80
  · have hblanks : ∀ n < 0x80, Text.isBlank (Char.ofNat n) = true → (Char.ofNat n).toLower.toNat < 0x61 := by
      decide +kernel
    rw [Bool.eq_false_iff]
    intro hblank
    have hsmall := Text.forall_ascii (fun c => Text.isBlank c = true → c.toLower.toNat < 0x61) hblanks hascii hblank
    omega
  · rw [Text.toLower_of_no_capital (.inr (by omega))] at hhigh
    omega

/-- A text without its blanks is a name up to case exactly if it spells the name. -/
theorem spelledBy_iff_strip {text : Text} {name : RuleName} :
    name.SpelledBy text ↔
      ∃ core : List Char, Text.strip text = core.map .scalar ∧ core.map Char.toLower = name.text.toList := by
  constructor
  · rintro ⟨front, core, back, rfl, hfront, hback, hcore⟩
    have hnone : ∀ point ∈ core.map CodePoint.scalar, point.isBlank = false := by
      intro point hpoint
      obtain ⟨c, hc, rfl⟩ := List.mem_map.mp hpoint
      have hletter : c.toLower ∈ name.text.toList := hcore ▸ List.mem_map_of_mem hc
      exact isBlank_eq_false_of_toLower hletter
    have hreverse : ∀ point ∈ (core.map CodePoint.scalar).reverse, point.isBlank = false := by
      intro point hpoint
      exact hnone point (List.mem_reverse.mp hpoint)
    have hself := Text.trim_eq_self (Text.stops_of_forall hnone) (Text.stops_of_forall hreverse)
    exact ⟨core, by rw [Text.strip_append hfront hback, Text.strip, hself], hcore⟩
  · rintro ⟨core, hstrip, hcore⟩
    obtain ⟨front, back, htext, hfront, hback⟩ := Text.exists_margins CodePoint.isBlank text
    rw [show Text.trim CodePoint.isBlank text = core.map .scalar from hstrip] at htext
    exact ⟨front, core, back, htext, hfront, hback, hcore⟩

/-- A name is found in the texts that spell it. -/
theorem find?_eq_some_iff_spelledBy {text : Text} {name : RuleName} :
    find? text = some name ↔ name.SpelledBy text := by
  rw [spelledBy_iff_strip, find?_eq_some_iff_lower, lowersTo_text_iff (Text.lowersTo_lower _)]

/-- The text without its blanks is the one that the blanks around it leave. -/
theorem find?_append {front text back : Text} (hfront : ∀ point ∈ front, point.isBlank = true)
    (hback : ∀ point ∈ back, point.isBlank = true) : find? (front ++ text ++ back) = find? text := by
  rw [find?, find?, Text.strip_append hfront hback]

/-- A text that spells a name stands for the mask of this name, and any other text for none. What stands between the
blanks has the name as its lower case, whichever small form its capital sigmas take; it holds no character beyond ASCII;
and further blanks around it change nothing. -/
theorem lookup_by_spelling (text : Text) :
    (∀ flag, (find? text).map mask = some flag ↔ ∃ name ∈ inOrder, name.SpelledBy text ∧ name.mask = flag) ∧
      (∀ small, Text.LowersTo (Text.strip text) small → ∀ name, find? text = some name ↔ small = name.text) ∧
      ((∃ point ∈ Text.strip text, 0x80 ≤ point.toNat) → find? text = none) ∧
      ∀ front back : Text, (∀ point ∈ front, point.isBlank = true) → (∀ point ∈ back, point.isBlank = true) →
        find? (front ++ text ++ back) = find? text := by
  refine ⟨fun flag => ?_, fun small hsmall name => find?_eq_some_iff_of_lowersTo hsmall, ?_, ?_⟩
  · rw [Option.map_eq_some_iff]
    constructor
    · rintro ⟨name, hfound, hmask⟩
      exact ⟨name, name.mem_inOrder_names, find?_eq_some_iff_spelledBy.mp hfound, hmask⟩
    · rintro ⟨name, -, hspelled, hmask⟩
      exact ⟨name, find?_eq_some_iff_spelledBy.mpr hspelled, hmask⟩
  · rintro ⟨point, hpoint, hbeyond⟩
    rw [Option.eq_none_iff_forall_ne_some]
    intro name hfound
    obtain ⟨core, hstrip, hcore⟩ := spelledBy_iff_strip.mp (find?_eq_some_iff_spelledBy.mp hfound)
    rw [hstrip] at hpoint
    obtain ⟨c, hc, rfl⟩ := List.mem_map.mp hpoint
    change 0x80 ≤ c.toNat at hbeyond
    have hmem : c.toLower ∈ name.text.toList := hcore ▸ List.mem_map_of_mem hc
    rw [Text.toLower_of_no_capital (.inr (by omega))] at hmem
    have hletter := mem_text hmem
    omega
  · intro front back hfront hback
    exact find?_append hfront hback

/-- Between an ideographic space and an information separator, capitals among small letters spell a name. With a Kelvin
sign, a long `s` or a final sigma in it a text is no name, although these look or lower like letters. -/
theorem lookup_by_spelling_of_mixed_case :
    (find? "\u3000oBJectString\x1c").map mask = some 0x200 ∧
      find? "ſpace" = none ∧ find? "zer\u212a" = none ∧ find? "NULLΣ " = none ∧
      find? ("\u3000" ++ "oBJectString" ++ "\x1c") = find? "oBJectString" := by
  obtain ⟨hflag, -, -, -⟩ := lookup_by_spelling "\u3000oBJectString\x1c"
  obtain ⟨-, -, -, hblanks⟩ := lookup_by_spelling "oBJectString"
  have hspelled : (RuleName.single .objectString).SpelledBy "\u3000oBJectString\x1c" :=
    ⟨"\u3000", "oBJectString".toList, "\x1c", by decide, List.all_eq_true.mp (by decide),
      List.all_eq_true.mp (by decide), by decide⟩
  refine ⟨(hflag 0x200).mpr ⟨.single .objectString, by decide, hspelled, by decide⟩, ?_, ?_, ?_, ?_⟩
  · exact (lookup_by_spelling "ſpace").2.2.1 ⟨'ſ', by decide +kernel, by decide⟩
  · exact (lookup_by_spelling "zer\u212a").2.2.1 ⟨'\u212a', by decide +kernel, by decide⟩
  · exact (lookup_by_spelling "NULLΣ ").2.2.1 ⟨'Σ', by decide +kernel, by decide⟩
  · exact hblanks "\u3000" "\x1c" (List.all_eq_true.mp (by decide)) (List.all_eq_true.mp (by decide))

end Emptiness.RuleName
