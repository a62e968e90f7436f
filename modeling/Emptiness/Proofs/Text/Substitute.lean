import Emptiness.Text.Substitute
import Mathlib.Data.List.Infix
import Mathlib.Tactic.Ring

/-!
# What a substitution does

The occurrences of a pattern that do not overlap, found from left to right, cut a text into gaps. The gaps depend on the
text and the pattern alone, so what is put in is not searched: neither an occurrence inside of it nor one that arises
where it meets a gap counts. Substituting joins the gaps with what is put in, and changes the length by as much for each
occurrence.
-/

namespace Emptiness.Text

variable {pattern replacement text gap rest : Text} {gaps : List Text}

/-- The gaps that a text is cut into by the occurrences of a pattern, from left to right. No occurrence begins before
the one that ends the first gap, and the search goes on behind it. -/
inductive Gaps (pattern : Text) : Text → List Text → Prop
  | last {text : Text} (hnone : ¬ pattern <:+: text) : Gaps pattern text [text]
  | next {gap rest : Text} {gaps : List Text}
      (hleftmost : ∀ before after, gap ++ pattern ++ rest = before ++ pattern ++ after → gap.length ≤ before.length)
      (hrest : Gaps pattern rest gaps) : Gaps pattern (gap ++ pattern ++ rest) (gap :: gaps)

/-- The result is the text with a number of occurrences of a pattern replaced, which are all that are found from left to
right and without overlap. -/
def Replaces (pattern replacement text result : Text) (count : Nat) : Prop :=
  ∃ gaps, Gaps pattern text gaps ∧ gaps.length = count + 1 ∧ result = replacement.intercalate gaps

/-- The pattern occurs in a text if the text contains it as it stands. -/
theorem occurs_iff : occurs pattern text = true ↔ pattern <:+: text := by
  induction text with
  | nil => rw [occurs, List.isEmpty_iff, List.infix_nil]
  | cons c rest ih => rw [occurs, Bool.or_eq_true, ih, List.isPrefixOf_iff_prefix, List.infix_cons_iff]

/-- There is at least one gap. -/
theorem Gaps.ne_nil (h : Gaps pattern text gaps) : gaps ≠ [] := by
  cases h <;> exact List.cons_ne_nil _ _

/-- Gaps that are joined with the pattern are the text. -/
theorem Gaps.intercalate_eq (h : Gaps pattern text gaps) : pattern.intercalate gaps = text := by
  induction h with
  | last => exact List.intercalate_singleton
  | next _ hrest ih => rw [List.intercalate_cons_of_ne_nil hrest.ne_nil, ih]

/-- A text is cut into gaps in one way only. -/
theorem Gaps.unique {others : List Text} (h : Gaps pattern text gaps) (hothers : Gaps pattern text others) :
    gaps = others := by
  induction h generalizing others with
  | last hnone =>
    cases hothers with
    | last => rfl
    | @next gap rest => exact absurd ⟨gap, rest, rfl⟩ hnone
  | @next gap rest gaps hleftmost hrest ih =>
    generalize hwhole : gap ++ pattern ++ rest = whole at hothers
    cases hothers with
    | last hnone => exact absurd ⟨gap, rest, hwhole⟩ hnone
    | @next gap' rest' gaps' hleftmost' hrest' =>
      have hlength : gap.length = gap'.length :=
        Nat.le_antisymm (hleftmost _ _ hwhole) (hleftmost' _ _ hwhole.symm)
      rw [List.append_assoc, List.append_assoc] at hwhole
      obtain ⟨rfl, hbehind⟩ := List.append_inj hwhole hlength
      rw [List.append_cancel_left hbehind] at ih
      rw [ih hrest']

/-- A code point before a text at which no occurrence begins belongs to the first gap. -/
theorem Gaps.cons {point : CodePoint} (h : Gaps pattern text gaps) (hfirst : ¬ pattern <+: point :: text) :
    ∃ gap more, gaps = gap :: more ∧ Gaps pattern (point :: text) ((point :: gap) :: more) := by
  cases h with
  | last hnone =>
    refine ⟨text, [], rfl, .last fun hoccurs => ?_⟩
    exact (List.infix_cons_iff.mp hoccurs).elim hfirst hnone
  | @next gap rest more hleftmost hrest =>
    refine ⟨gap, more, rfl, @Gaps.next pattern (point :: gap) rest more (fun before after hsplit => ?_) hrest⟩
    cases before with
    | nil => exact absurd ⟨after, hsplit.symm⟩ hfirst
    | cons d before =>
      obtain ⟨-, hsplit⟩ := List.cons_eq_cons.mp hsplit
      exact Nat.succ_le_succ (hleftmost before after hsplit)

/-- Code points of an occurrence that is already replaced are dropped. -/
theorem replaceFrom_eq_drop (skipped : Nat) :
    replaceFrom pattern replacement skipped text = replaceAll pattern replacement (text.drop skipped) := by
  induction skipped generalizing text with
  | zero => rfl
  | succ skipped ih =>
    cases text with
    | nil => rfl
    | cons c rest => rw [replaceFrom, ih, List.drop_succ_cons]

/-- A substitution gives no code point but those of the text and of what is put in. -/
theorem mem_of_mem_replaceFrom {point : CodePoint} {skipped : Nat}
    (h : point ∈ replaceFrom pattern replacement skipped text) : point ∈ replacement ∨ point ∈ text := by
  fun_induction replaceFrom pattern replacement skipped text with
  | case1 => cases h
  | case2 skipped _ rest ih => exact (ih h).imp_right (List.mem_cons_of_mem _)
  | case3 first rest _ ih =>
    rcases List.mem_append.mp h with hput | hrest
    · exact .inl hput
    · exact (ih hrest).imp_right (List.mem_cons_of_mem _)
  | case4 first rest _ ih =>
    rcases List.mem_cons.mp h with rfl | hrest
    · exact .inr List.mem_cons_self
    · exact (ih hrest).imp_right (List.mem_cons_of_mem _)

/-- An occurrence at the beginning is replaced, and the search goes on behind it. -/
theorem replaceAll_append (hpattern : pattern ≠ []) :
    replaceAll pattern replacement (pattern ++ rest) = replacement ++ replaceAll pattern replacement rest := by
  obtain ⟨c, tail, rfl⟩ := List.exists_cons_of_ne_nil hpattern
  have hfirst : (c :: tail).isPrefixOf (c :: (tail ++ rest)) = true :=
    List.isPrefixOf_iff_prefix.mpr (List.prefix_append (c :: tail) rest)
  rw [List.cons_append, replaceAll, replaceFrom, if_pos hfirst, replaceFrom_eq_drop, List.length_cons,
    Nat.add_sub_cancel, List.drop_left]

/-- A code point at which no occurrence begins is kept. -/
theorem replaceAll_cons {point : CodePoint} (hfirst : ¬ pattern <+: point :: rest) :
    replaceAll pattern replacement (point :: rest) = point :: replaceAll pattern replacement rest := by
  rw [replaceAll, replaceFrom, if_neg (mt List.isPrefixOf_iff_prefix.mp hfirst), replaceAll]

/-- A substitution cuts the text into its gaps and joins them with what is put in. -/
theorem exists_gaps_replaceAll (hpattern : pattern ≠ []) (text : Text) :
    ∃ gaps, Gaps pattern text gaps ∧
      ∀ replacement, replaceAll pattern replacement text = replacement.intercalate gaps := by
  induction hlength : text.length using Nat.strong_induction_on generalizing text with
  | _ length ih =>
    subst hlength
    by_cases hfirst : pattern <+: text
    · obtain ⟨rest, rfl⟩ := hfirst
      have hshorter : rest.length < (pattern ++ rest).length := by
        have := List.length_pos_iff.mpr hpattern
        rw [List.length_append]
        omega
      obtain ⟨gaps, hgaps, hreplace⟩ := ih _ hshorter rest rfl
      refine ⟨[] :: gaps, @Gaps.next pattern [] rest gaps (fun _ _ _ => Nat.zero_le _) hgaps, fun replacement => ?_⟩
      rw [replaceAll_append hpattern, hreplace, List.intercalate_cons_of_ne_nil hgaps.ne_nil, List.nil_append]
    · cases text with
      | nil => exact ⟨[[]], .last (mt List.infix_nil.mp hpattern), fun _ => rfl⟩
      | cons c rest =>
        obtain ⟨gaps, hgaps, hreplace⟩ := ih _ (Nat.lt_succ_self _) rest rfl
        obtain ⟨gap, more, rfl, hcons⟩ := hgaps.cons hfirst
        refine ⟨(c :: gap) :: more, hcons, fun replacement => ?_⟩
        rw [replaceAll_cons hfirst, hreplace]
        cases more <;> rfl

/-- A substitution replaces the occurrences that are found from left to right, and nothing else has this result. -/
theorem replaceAll_eq_iff (hpattern : pattern ≠ []) {result : Text} :
    replaceAll pattern replacement text = result ↔ ∃ count, Replaces pattern replacement text result count := by
  obtain ⟨gaps, hgaps, hreplace⟩ := exists_gaps_replaceAll hpattern text
  rw [hreplace]
  constructor
  · rintro rfl
    have hcount : gaps.length = gaps.length - 1 + 1 := (Nat.sub_add_cancel (List.length_pos_iff.mpr hgaps.ne_nil)).symm
    exact ⟨gaps.length - 1, gaps, hgaps, hcount, rfl⟩
  · rintro ⟨count, others, hothers, -, rfl⟩
    rw [hgaps.unique hothers]

/-- Two ways to join the same parts differ in length by as much for each place where parts meet. -/
theorem length_intercalate_eq (a b : Text) {parts : List Text} {count : Nat}
    (h : parts.length = count + 1) :
    ((a.intercalate parts).length : Int) = (b.intercalate parts).length + count * (a.length - b.length) := by
  induction count generalizing parts with
  | zero =>
    obtain ⟨part, rfl⟩ := List.length_eq_one_iff.mp h
    simp
  | succ count ih =>
    obtain ⟨part, more, rfl⟩ := List.exists_cons_of_length_eq_add_one h
    have hmore : more.length = count + 1 := by simpa using h
    have hne : more ≠ [] := List.ne_nil_of_length_eq_add_one hmore
    rw [List.intercalate_cons_of_ne_nil hne, List.intercalate_cons_of_ne_nil hne]
    push_cast [List.length_append]
    rw [ih hmore]
    ring

/-- Each occurrence that is replaced changes the length by the difference of what is put in and the pattern. -/
theorem Replaces.length_eq {result : Text} {count : Nat} (h : Replaces pattern replacement text result count) :
    (result.length : Int) = text.length + count * (replacement.length - pattern.length) := by
  obtain ⟨gaps, hgaps, hcount, rfl⟩ := h
  rw [length_intercalate_eq replacement pattern hcount, hgaps.intercalate_eq]

/-- Nothing is replaced where the pattern does not occur. -/
theorem replaces_of_not_occurs (h : ¬ pattern <:+: text) : Replaces pattern replacement text text 0 :=
  ⟨[text], .last h, rfl, List.intercalate_singleton.symm⟩

end Emptiness.Text
