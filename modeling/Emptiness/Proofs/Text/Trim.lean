import Emptiness.Proofs.Text.Span
import Emptiness.Text.Blank
import Mathlib.Data.List.DropRight

/-!
# Removing margins

A text without its margins is what is left between a front and a back of margin characters. Nothing is left of a text
exactly if it has no other characters. Further margin characters around a text do not change what is left, and nothing
is removed from a text that neither begins nor ends with one.
-/

namespace Emptiness.Text

variable {α : Type} {isMargin : α → Bool} {front text back core : List α}

/-- Margins are removed at the front and then at the back. -/
theorem trim_eq_rdropWhile (isMargin : α → Bool) (text : List α) :
    trim isMargin text = (text.dropWhile isMargin).rdropWhile isMargin :=
  rfl

/-- A text is what is left of it between two margins. -/
theorem exists_margins (isMargin : α → Bool) (text : List α) :
    ∃ front back, text = front ++ trim isMargin text ++ back ∧
      (∀ c ∈ front, isMargin c = true) ∧ ∀ c ∈ back, isMargin c = true := by
  refine ⟨text.takeWhile isMargin, (text.dropWhile isMargin).rtakeWhile isMargin, ?_, ?_, ?_⟩
  · rw [trim_eq_rdropWhile, List.append_assoc, List.rdropWhile_append_rtakeWhile, List.takeWhile_append_dropWhile]
  · intro c hc
    exact List.mem_takeWhile_imp hc
  · intro c hc
    exact List.mem_rtakeWhile_imp hc

/-- Nothing is left of a text exactly if all its characters belong to the margin. -/
theorem trim_eq_nil_iff : trim isMargin text = [] ↔ ∀ c ∈ text, isMargin c = true := by
  constructor
  · intro h c hc
    obtain ⟨front, back, htext, hfront, hback⟩ := exists_margins isMargin text
    rw [h, List.append_nil] at htext
    rw [htext] at hc
    exact (List.mem_append.mp hc).elim (hfront c) (hback c)
  · intro h
    rw [trim, List.dropWhile_eq_nil_iff.mpr h]
    rfl

/-- Further margins change nothing. -/
theorem trim_append (hfront : ∀ c ∈ front, isMargin c = true) (hback : ∀ c ∈ back, isMargin c = true) :
    trim isMargin (front ++ text ++ back) = trim isMargin text := by
  have hreverse : ∀ c ∈ back.reverse, isMargin c = true := by
    intro c hc
    exact hback c (List.mem_reverse.mp hc)
  rw [List.append_assoc, trim, List.dropWhile_append_of_pos hfront, List.dropWhile_append]
  split
  · -- nothing but margins: both sides are empty
    next hempty =>
    have hnil : back.dropWhile isMargin = [] := List.dropWhile_eq_nil_iff.mpr hback
    rw [hnil, trim, List.isEmpty_iff.mp hempty]
  · rw [List.reverse_append, List.dropWhile_append_of_pos hreverse, trim]

/-- White space around a text does not change what is left when it is removed. -/
theorem strip_append {front text back : Text} (hfront : ∀ point ∈ front, point.isBlank = true)
    (hback : ∀ point ∈ back, point.isBlank = true) : strip (front ++ text ++ back) = strip text :=
  trim_append hfront hback

/-- Nothing is removed where a text does not begin. -/
theorem dropWhile_of_stops (h : Stops isMargin text) : text.dropWhile isMargin = text := by
  have hnone : ∀ c ∈ ([] : List α), isMargin c = true := nofun
  exact dropWhile_append hnone h

/-- A text that neither begins nor ends with a margin character is left as it is. -/
theorem trim_eq_self (hfront : Stops isMargin core) (hback : Stops isMargin core.reverse) :
    trim isMargin core = core := by
  rw [trim, dropWhile_of_stops hfront, dropWhile_of_stops hback, List.reverse_reverse]

/-- A text without margin characters does not begin with one. -/
theorem stops_of_forall (h : ∀ c ∈ core, isMargin c = false) : Stops isMargin core := by
  intro c hc
  exact h c (List.mem_of_mem_head? hc)

end Emptiness.Text
