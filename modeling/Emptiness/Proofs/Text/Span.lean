/-!
# Where a run of one kind ends

A reader takes characters of one kind as long as they last. What it takes is known as soon as the text after it does not
go on with another character of that kind. The same holds of code points.
-/

namespace Emptiness.Text

variable {α : Type} {p : α → Bool}

/-- The text does not begin with a character of this kind. -/
def Stops (p : α → Bool) (text : List α) : Prop :=
  ∀ c ∈ text.head?, p c = false

@[simp]
theorem stops_cons {c : α} {rest : List α} : Stops p (c :: rest) ↔ p c = false := by
  simp [Stops]

/-- A run of characters of one kind ends where the text after it stops. -/
theorem takeWhile_append {run rest : List α} (hrun : ∀ c ∈ run, p c = true) (hrest : Stops p rest) :
    (run ++ rest).takeWhile p = run := by
  rw [List.takeWhile_append_of_pos hrun]
  cases rest with
  | nil => simp
  | cons c more => simp [stops_cons.mp hrest]

/-- What follows a run of characters of one kind is left. -/
theorem dropWhile_append {run rest : List α} (hrun : ∀ c ∈ run, p c = true) (hrest : Stops p rest) :
    (run ++ rest).dropWhile p = rest := by
  rw [List.dropWhile_append_of_pos hrun]
  cases rest with
  | nil => rfl
  | cons c more => simp [stops_cons.mp hrest]

/-- What is left after a run of characters of one kind does not go on with it. -/
theorem stops_dropWhile (p : α → Bool) (text : List α) : Stops p (text.dropWhile p) := by
  intro c hc
  have hnot := List.head?_dropWhile_not p text
  rwa [Option.mem_def.mp hc] at hnot

end Emptiness.Text
