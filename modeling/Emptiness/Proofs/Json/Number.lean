import Emptiness.Json.Reader
import Emptiness.Proofs.Number.Numeral
import Emptiness.Proofs.Text.Span

/-!
# Whole numbers are read as they were written

A numeral ends where the text after it does not go on with a digit, a point or the mark of an exponent. Up to there it
is read as the whole number that it was written for, unless it is too long.
-/

namespace Emptiness.Json

/-- A character with which a number may go on. -/
def continuesNumber (c : Char) : Bool :=
  c.isDigit || c = '.' || c = 'e' || c = 'E'

variable {rest : List Char}

/-- Where a number ends, its digits end. -/
theorem stops_digits (h : Text.Stops continuesNumber rest) : Text.Stops Char.isDigit rest := by
  intro c hc
  have hnone := h c hc
  simp only [continuesNumber, Bool.or_eq_false_iff] at hnone
  exact hnone.1.1.1

/-- The digits of a number are read up to where the number ends. -/
theorem readWhole?_digits (n : Nat) (h : Text.Stops continuesNumber rest) :
    readWhole? (Number.digits n ++ rest) = some (Number.digits n, rest) := by
  cases n with
  | zero => rfl
  | succ n =>
    have hdigits (c : Char) (hc : c ∈ Number.digits (n + 1)) : c.isDigit = true := Number.isDigit_of_mem_digits hc
    have htake := Text.takeWhile_append hdigits (stops_digits h)
    have hdrop := Text.dropWhile_append hdigits (stops_digits h)
    obtain ⟨first, more, hcons, hfirst⟩ := Number.exists_digits_eq_cons (Nat.succ_pos n)
    rw [hcons, List.cons_append] at htake hdrop ⊢
    rw [readWhole?]
    · simp only [htake, hdrop]
      rfl
    · intro other hzero
      exact hfirst (List.cons.inj hzero).1

/-- Where a number ends, no fraction is read. -/
theorem readFraction_of_stops (h : Text.Stops continuesNumber rest) : readFraction rest = ([], rest) := by
  unfold readFraction
  split
  · cases h '.' rfl
  · rfl

/-- Where a number ends, no exponent is read. -/
theorem readExponent_of_stops (h : Text.Stops continuesNumber rest) : readExponent rest = (none, rest) := by
  unfold readExponent
  split
  · rfl
  · next mark more =>
    have hmark := h mark rfl
    simp only [continuesNumber, Bool.or_eq_false_iff, decide_eq_false_iff_not] at hmark
    rw [if_neg]
    simp [hmark.1.2, hmark.2]

/-- A character that is no digit is not one that is. -/
theorem ne_of_isDigit {c other : Char} (hc : c.isDigit = true) (hother : other.isDigit = false) : other ≠ c := by
  rintro rfl
  exact Bool.false_ne_true (hother.symm.trans hc)

/-- A digit is neither a blank nor a mark of what is no number. -/
theorem not_mark_of_isDigit {c : Char} (h : c.isDigit = true) :
    isSpace c = false ∧ c ∉ ['"', '[', ']', '\x7b', '\x7d'] := by
  have hne {other : Char} (hother : other.isDigit = false) : c ≠ other := (ne_of_isDigit h hother).symm
  constructor
  · simp [isSpace, @hne ' ', @hne '\t', @hne '\n', @hne '\r']
  · simp [@hne '"', @hne '[', @hne ']', @hne '\x7b', @hne '\x7d']

/-- A numeral begins with a digit, or with a minus sign and a digit. -/
theorem numeral_cases (i : Int) :
    ∃ first more, first.isDigit = true ∧
      (Number.numeral i = first :: more ∨ Number.numeral i = '-' :: first :: more) := by
  cases i with
  | ofNat n =>
    obtain ⟨first, more, hdigits, hfirst⟩ := Number.exists_isDigit_cons n
    exact ⟨first, more, hfirst, .inl hdigits⟩
  | negSucc n =>
    obtain ⟨first, more, hdigits, hfirst⟩ := Number.exists_isDigit_cons (n + 1)
    exact ⟨first, more, hfirst, .inr (congrArg (List.cons '-') hdigits)⟩

/-- The digits of a number have no sign. -/
theorem readMinus_digits (n : Nat) (rest : List Char) :
    readMinus (Number.digits n ++ rest) = (false, Number.digits n ++ rest) := by
  obtain ⟨first, more, hdigits, hfirst⟩ := Number.exists_isDigit_cons n
  rw [hdigits, List.cons_append, readMinus]
  intro other hminus
  exact ne_of_isDigit hfirst rfl (List.cons.inj hminus).1.symm

/-- A numeral is read as its number up to where the number ends. -/
theorem readNumber_numeral {i : Int} (hshort : i.natAbs < Number.numeralBound) (h : Text.Stops continuesNumber rest) :
    readNumber (Number.numeral i ++ rest) = .ok (.int i, rest) := by
  have hunsigned (negative : Bool) (n : Nat) (source : List Char) (hn : n < Number.numeralBound)
      (hminus : readMinus source = (negative, Number.digits n ++ rest)) :
      readNumber source = .ok (.int (if negative then -(n : Int) else n), rest) := by
    have hlength := Nat.not_lt.mpr ((Number.length_digits_le_iff n).mpr hn)
    simp only [readNumber, hminus, readWhole?_digits n h, readFraction_of_stops h, readExponent_of_stops h, hlength]
    simp [Number.ofDigits_digits]
  cases i with
  | ofNat n => exact hunsigned false n _ hshort (readMinus_digits n rest)
  | negSucc n => exact hunsigned true (n + 1) _ hshort rfl

/-- What begins with a digit, or with a minus sign and a digit, is no word but may be a number. -/
theorem readAtom_eq_readNumber {source more : List Char} {first : Char} (hfirst : first.isDigit = true)
    (hsource : source = first :: more ∨ source = '-' :: first :: more) : readAtom source = readNumber source := by
  have hne {other : Char} (hother : other.isDigit = false) : other ≠ first := ne_of_isDigit hfirst hother
  have hwords : ∀ entry ∈ words, after? entry.1 source = none := by
    obtain rfl | rfl := hsource
    · simp [words, after?, @hne 'n', @hne 't', @hne 'f', @hne 'N', @hne 'I', @hne '-']
    · simp [words, after?, @hne 'I']
  unfold readAtom
  split
  case h_1 found hfound =>
    obtain ⟨⟨word, item⟩, hentry, hafter⟩ := List.exists_of_findSome?_eq_some hfound
    obtain ⟨after, hsome, -⟩ := Option.map_eq_some_iff.mp hafter
    cases (hwords _ hentry).symm.trans hsome
  case h_2 => rfl

/-- A numeral is no word, so it is read as its number. -/
theorem readAtom_numeral {i : Int} (hshort : i.natAbs < Number.numeralBound) (h : Text.Stops continuesNumber rest) :
    readAtom (Number.numeral i ++ rest) = .ok (.int i, rest) := by
  obtain ⟨first, more, hfirst, hnumeral⟩ := numeral_cases i
  have hsource : Number.numeral i ++ rest = first :: (more ++ rest) ∨
      Number.numeral i ++ rest = '-' :: first :: (more ++ rest) :=
    hnumeral.imp (congrArg (· ++ rest)) (congrArg (· ++ rest))
  rw [readAtom_eq_readNumber hfirst hsource, readNumber_numeral hshort h]

end Emptiness.Json
