import Emptiness.Proofs.Json.Lexemes

/-!
# Where phrases begin and end

The first character of a phrase is neither a blank nor a closing bracket, and its last one is among few. So a phrase is
never empty, and what follows it is shorter than the text. A whole numeral that a text runs into stands in it with all
its digits in a row, and a document that is a text is shorter than the text that it is written in.
-/

namespace Emptiness.Json

variable {source rest : List Char}

/-! ## First characters -/

/-- The text begins with what may begin a phrase: with no blank, and with nothing that ends a series. -/
def BeginsPhrase (source : List Char) : Prop :=
  ∃ c more, source = c :: more ∧ isSpace c = false ∧ c ≠ ']' ∧ c ≠ '\x7d'

/-- A phrase does not begin with a blank. -/
theorem BeginsPhrase.stops (h : BeginsPhrase source) : Text.Stops isSpace source := by
  obtain ⟨c, more, rfl, hspace, -⟩ := h
  exact Text.stops_cons.mpr hspace

/-- Every number begins a phrase. -/
theorem beginsPhrase_number (negative : Bool) {whole : List Char} (h : IsWhole whole) (rest : List Char) :
    BeginsPhrase (minus negative ++ (whole ++ rest)) := by
  obtain ⟨c, more, hcons, hspace, hmarks⟩ := exists_number_cons negative h rest
  simp only [List.mem_cons, List.not_mem_nil, or_false, not_or] at hmarks
  exact ⟨c, more, hcons, hspace, hmarks.2.2.1, hmarks.2.2.2.2⟩

/-- Every word begins a phrase. -/
theorem beginsPhrase_word {text : List Char} {d : Json} (h : (text, d) ∈ words) (rest : List Char) :
    BeginsPhrase (text ++ rest) := by
  simp only [words, List.mem_cons, Prod.mk.injEq, List.not_mem_nil, or_false] at h
  obtain ⟨rfl, -⟩ | ⟨rfl, -⟩ | ⟨rfl, -⟩ | ⟨rfl, -⟩ | ⟨rfl, -⟩ | ⟨rfl, -⟩ := h <;>
    exact ⟨_, _, rfl, rfl, by decide, by decide⟩

/-- What is spelled begins with a phrase. -/
theorem Spells.begins {admits : Nat → Prop} {phrase : Phrase} (h : Spells admits phrase source rest) :
    BeginsPhrase source := by
  induction h with
  | word hword => exact beginsPhrase_word hword _
  | whole hwhole => exact beginsPhrase_number _ hwhole _
  | decimal hwhole => exact beginsPhrase_number _ hwhole _
  | text | member => exact ⟨'"', _, rfl, rfl, by decide, by decide⟩
  | emptyArray | array => exact ⟨'[', _, rfl, rfl, by decide, by decide⟩
  | emptyObject | object => exact ⟨'\x7b', _, rfl, rfl, by decide, by decide⟩
  | lastItem _ _ ih | lastMember _ _ ih => exact ih
  | moreItems _ _ _ _ ih | moreMembers _ _ _ _ ih => exact ih

/-- What runs into a numeral that is too long begins with a phrase. -/
theorem RunsInto.begins {n : Nat} {place : Place} (h : RunsInto n place source) : BeginsPhrase source := by
  induction h with
  | numeral hwhole => exact beginsPhrase_number _ hwhole _
  | array => exact ⟨'[', _, rfl, rfl, by decide, by decide⟩
  | object => exact ⟨'\x7b', _, rfl, rfl, by decide, by decide⟩
  | member => exact ⟨'"', _, rfl, rfl, by decide, by decide⟩
  | firstItem _ ih | firstMember _ ih => exact ih
  | laterItem hitem => exact hitem.begins
  | laterMember hmember => exact hmember.begins

/-! ## Last characters -/

/-- A character with which a phrase may end: a digit, the end of a word, a quote or a closing bracket. -/
def endsPhrase (c : Char) : Bool :=
  c.isDigit || ['l', 'e', 'N', 'y', '"', ']', '\x7d'].contains c

/-- The last character before the rest of the text is one that may end a phrase. -/
def EndsBefore (source rest : List Char) : Prop :=
  ∃ before last, source = before ++ last :: rest ∧ endsPhrase last = true

/-- What ends before the rest still does so after more text. -/
theorem EndsBefore.append (h : EndsBefore source rest) (front : List Char) : EndsBefore (front ++ source) rest := by
  obtain ⟨before, last, rfl, hlast⟩ := h
  exact ⟨front ++ before, last, (List.append_assoc _ _ _).symm, hlast⟩

/-- What ends before the rest still does so after another character. -/
theorem EndsBefore.cons (h : EndsBefore source rest) (c : Char) : EndsBefore (c :: source) rest :=
  h.append [c]

/-- Of two phrases in a row, the second one ends the text. -/
theorem EndsBefore.trans {middle : List Char} (h : EndsBefore source middle) (hrest : EndsBefore middle rest) :
    EndsBefore source rest := by
  obtain ⟨before, last, rfl, -⟩ := h
  rw [List.append_cons]
  exact hrest.append _

/-- What follows the end of a phrase is the end of the text. -/
theorem EndsBefore.isSuffix (h : EndsBefore source rest) : rest <:+ source := by
  obtain ⟨before, last, rfl, -⟩ := h
  exact (List.suffix_cons _ _).trans (List.suffix_append _ _)

/-- What follows the end of a phrase is shorter than the text. -/
theorem EndsBefore.length_lt (h : EndsBefore source rest) : rest.length < source.length := by
  obtain ⟨before, last, rfl, -⟩ := h
  exact (List.suffix_append before (last :: rest)).length_le

/-- A margin before a text does not change where the text ends. -/
theorem Margin.endsBefore {inside : List Char} (h : Margin source inside) (hends : EndsBefore inside rest) :
    EndsBefore source rest := by
  obtain ⟨blanks, -, rfl⟩ := h
  exact hends.append blanks

/-- A text ends with its last character. -/
theorem endsBefore_of_last {text : List Char} (h : text.getLast?.any endsPhrase = true) (rest : List Char) :
    EndsBefore (text ++ rest) rest := by
  obtain ⟨last, hsome, hlast⟩ := (Option.any_eq_true _ _).mp h
  obtain ⟨before, rfl⟩ := List.getLast?_eq_some_iff.mp hsome
  exact ⟨before, last, (List.append_cons _ _ _).symm, hlast⟩

/-- A closing character ends the text before it. -/
theorem endsBefore_cons {c : Char} (h : endsPhrase c = true) (rest : List Char) : EndsBefore (c :: rest) rest :=
  ⟨[], c, rfl, h⟩

/-- Digits end before what follows them. -/
theorem endsBefore_digits {digits : List Char} (hne : digits ≠ []) (hdigits : ∀ c ∈ digits, c.isDigit = true)
    (rest : List Char) : EndsBefore (digits ++ rest) rest := by
  refine endsBefore_of_last ?_ rest
  rw [List.getLast?_eq_some_getLast hne, Option.any_some, endsPhrase, hdigits _ (List.getLast_mem hne), Bool.true_or]

/-- A text ends with its quote. -/
theorem SpellsUnits.endsBefore {units : List Nat} (h : SpellsUnits units source rest) : EndsBefore source rest := by
  induction h with
  | close => exact endsBefore_cons rfl _
  | plain _ _ _ _ ih => exact ih.cons _
  | letter _ _ ih => exact (ih.cons _).cons _
  | @hex a b c d _ _ _ _ _ _ ih => exact ih.append ['\\', 'u', a, b, c, d]

/-- A number ends with a digit. -/
theorem endsBefore_decimal {whole fraction middle after : List Char} {exponent : Option Int} (hwhole : IsWhole whole)
    (hfraction : SpellsFraction fraction middle after) (hexponent : SpellsExponent exponent after rest) :
    EndsBefore (whole ++ middle) rest := by
  have hmiddle : EndsBefore (whole ++ middle) after := by
    cases hfraction with
    | absent => exact endsBefore_digits hwhole.ne_nil hwhole.isDigit _
    | point hne hdigits => exact ((endsBefore_digits hne hdigits _).cons '.').append _
  cases hexponent with
  | absent => exact hmiddle
  | marked _ _ hne hdigits => exact hmiddle.trans (((endsBefore_digits hne hdigits _).append _).cons _)

/-- Every phrase ends with a character that may end a phrase. -/
theorem Spells.endsBefore {admits : Nat → Prop} {phrase : Phrase} (h : Spells admits phrase source rest) :
    EndsBefore source rest := by
  induction h with
  | word hword =>
    have hwords : ∀ entry ∈ words, entry.1.getLast?.any endsPhrase = true := by decide
    exact endsBefore_of_last (hwords _ hword) _
  | whole hwhole => exact (endsBefore_digits hwhole.ne_nil hwhole.isDigit _).append _
  | decimal hwhole hfraction hexponent => exact (endsBefore_decimal hwhole hfraction hexponent).append _
  | text hunits => exact hunits.endsBefore.cons _
  | emptyArray hmargin | emptyObject hmargin => exact (hmargin.endsBefore (endsBefore_cons rfl _)).cons _
  | array hmargin _ ih | object hmargin _ ih => exact (hmargin.endsBefore ih).cons _
  | member hname hcolon hmargin _ ih =>
    exact (hname.endsBefore.trans (hcolon.endsBefore ((hmargin.endsBefore ih).cons ':'))).cons _
  | lastItem _ hclose ih | lastMember _ hclose ih => exact ih.trans (hclose.endsBefore (endsBefore_cons rfl _))
  | moreItems _ hcomma hmargin _ ih ih' | moreMembers _ hcomma hmargin _ ih ih' =>
    exact ih.trans (hcomma.endsBefore ((hmargin.endsBefore ih').cons ','))

/-- The last character of a document is a blank, or one that may end a phrase. -/
theorem IsDocument.exists_last {d : Json} (h : IsDocument d source) :
    ∃ before last, source = before ++ [last] ∧ (isSpace last = true ∨ endsPhrase last = true) := by
  obtain ⟨start, rest, hmargin, hspells, blanks, hblanks, rfl⟩ := h
  obtain ⟨before, last, rfl, hlast⟩ := hmargin.endsBefore hspells.endsBefore
  rw [List.append_nil]
  rcases List.eq_nil_or_concat blanks with rfl | ⟨others, blank, rfl⟩
  · exact ⟨before, last, rfl, .inr hlast⟩
  · refine ⟨before ++ last :: others, blank, ?_, .inl (hblanks blank ?_)⟩
    · rw [List.concat_eq_append, List.append_assoc, List.cons_append]
    · rw [List.concat_eq_append]
      exact List.mem_append_right _ List.mem_cons_self

/-- A text is no document if its last character is no blank and may not end a phrase. -/
theorem not_isDocument_of_last {c : Char} (hspace : isSpace c = false) (hends : endsPhrase c = false)
    (before : List Char) (d : Json) : ¬ IsDocument d (before ++ [c]) := by
  intro h
  obtain ⟨others, last, hsplit, hlast⟩ := h.exists_last
  obtain ⟨-, hlasts⟩ := List.append_inj' hsplit rfl
  cases hlasts
  simp [hspace, hends] at hlast

/-! ## Where long numerals stand -/

/-- There are `n` digits in a row in the text, more than a numeral may have. -/
def HasLongRun (n : Nat) (source : List Char) : Prop :=
  ∃ digits, digits <:+: source ∧ digits.length = n ∧ (∀ c ∈ digits, c.isDigit = true) ∧ ¬ IsShort n

/-- Digits in a row at the end of a text are such in the text. -/
theorem HasLongRun.of_isSuffix {n : Nat} (h : HasLongRun n rest) (hsuffix : rest <:+ source) : HasLongRun n source :=
  h.imp fun _ hdigits => ⟨hdigits.1.trans hsuffix.isInfix, hdigits.2⟩

/-- A text runs only into numerals whose digits stand in it in a row. -/
theorem RunsInto.hasLongRun {n : Nat} {place : Place} (h : RunsInto n place source) : HasLongRun n source := by
  induction h with
  | @numeral negative digits rest hwhole hlength hlong =>
    exact ⟨digits, ⟨minus negative, rest, List.append_assoc _ _ _⟩, hlength, hwhole.isDigit, hlong⟩
  | array hmargin _ ih | object hmargin _ ih => exact ih.of_isSuffix (hmargin.isSuffix.trans (List.suffix_cons _ _))
  | member hname hcolon hmargin _ ih =>
    have hafter := (hcolon.isSuffix.trans hname.endsBefore.isSuffix).trans (List.suffix_cons '"' _)
    exact ih.of_isSuffix (hmargin.isSuffix.trans ((List.suffix_cons ':' _).trans hafter))
  | firstItem _ ih | firstMember _ ih => exact ih
  | laterItem hfirst hcomma hmargin _ ih | laterMember hfirst hcomma hmargin _ ih =>
    have hafter := hcomma.isSuffix.trans hfirst.endsBefore.isSuffix
    exact ih.of_isSuffix (hmargin.isSuffix.trans ((List.suffix_cons ',' _).trans hafter))

/-- A text runs into a numeral that is too long only if all its digits stand in the text in a row. -/
theorem ReachesLongNumeral.hasLongRun {n : Nat} (h : ReachesLongNumeral n source) : HasLongRun n source := by
  obtain ⟨start, hmargin, hruns⟩ := h
  exact hruns.hasLongRun.of_isSuffix hmargin.isSuffix

/-- A short text runs into no numeral that is too long. -/
theorem not_reachesLongNumeral_of_isShort (h : IsShort source.length) (n : Nat) : ¬ ReachesLongNumeral n source := by
  intro hlong
  obtain ⟨digits, hinfix, rfl, -, hdigits⟩ := hlong.hasLongRun
  exact hdigits (Nat.le_trans hinfix.length_le h)

/-! ## Lengths of texts -/

/-- A text is written with at least a character for each code unit, and its closing quote. -/
theorem SpellsUnits.length_add_lt {units : List Nat} (h : SpellsUnits units source rest) :
    units.length + rest.length < source.length := by
  induction h with
  | close => simp
  | plain _ _ _ _ ih => simpa using by omega
  | letter _ _ ih =>
    simp only [List.length_cons]
    omega
  | hex _ _ ih =>
    simp only [List.length_cons]
    omega

/-- A code point takes one or two code units. -/
theorem length_joinUnits_le (units : List Nat) : (joinUnits units).length ≤ units.length := by
  fun_induction joinUnits units with
  | case1 => exact Nat.le_refl _
  | case2 unit => exact Nat.le_refl _
  | case3 high low rest _ ih =>
    simp only [List.length_cons]
    omega
  | case4 high low rest _ ih =>
    simp only [List.length_cons] at ih ⊢
    omega

/-- A document that is a text is spelled with two characters more than it has, or with more. -/
theorem Spells.length_text {admits : Nat → Prop} {s : Text} (h : Spells admits (.item (.text s)) source rest) :
    s.length + rest.length + 2 ≤ source.length := by
  generalize hphrase : Phrase.item (.text s) = phrase at h
  cases h with
  | word hword =>
    cases hphrase
    simp [words] at hword
  | @text units source rest hunits =>
    cases hphrase
    have hunits := hunits.length_add_lt
    have hjoin := length_joinUnits_le units
    rw [List.length_cons]
    omega
  | _ => simp [Json.decimal, ofMembers] at hphrase

/-- A document that is a text is written with two characters more than it has, or with more. -/
theorem IsDocument.length_text {s : Text} (h : IsDocument (.text s) source) : s.length + 2 ≤ source.length := by
  obtain ⟨start, rest, hmargin, hspells, -⟩ := h
  have hlength := hspells.length_text
  have hstart := hmargin.length_le
  omega

end Emptiness.Json
