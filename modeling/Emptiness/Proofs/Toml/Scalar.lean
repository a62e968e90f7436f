import Emptiness.Proofs.Json.Lexemes
import Emptiness.Toml.Scalar

/-!
# What readers of TOML scalars leave

Each reader leaves a suffix of the text that it begins with, and a numeral that is too long for it stands in the text:
digits that underscores may separate, more of them than can be read. Both hold of readers that go on where others stop,
so the properties of the parts of a scalar are put together in the order in which they are read.
-/

namespace Emptiness.Toml

variable {α β : Type} {source rest : List Char} {left : α → List Char}

/-! ## Readers that find something or nothing -/

/-- What is left after a finding, if there is one, is a suffix of the source. -/
def FindsWithin (left : α → List Char) (source : List Char) (found : Option α) : Prop :=
  ∀ a, found = some a → left a <:+ source

/-- Nothing is found. -/
theorem findsWithin_none : FindsWithin left source none :=
  fun _ h => nomatch h

/-- Something is found, and a suffix is left. -/
theorem findsWithin_some {a : α} (h : left a <:+ source) : FindsWithin left source (some a) := by
  intro b hfound
  cases hfound
  exact h

namespace FindsWithin

variable {found : Option α}

/-- What is found in a suffix is found in the source. -/
theorem of_isSuffix (h : FindsWithin left rest found) (hsuffix : rest <:+ source) : FindsWithin left source found :=
  fun a hfound => (h a hfound).trans hsuffix

/-- What is found after some characters is found in the source. -/
theorem of_drop (k : Nat) (h : FindsWithin left (source.drop k) found) : FindsWithin left source found :=
  h.of_isSuffix (List.drop_suffix k source)

/-- What is made of a finding leaves what the finding leaves. -/
theorem map (h : FindsWithin left source found) {make : α → β} {left' : β → List Char}
    (hmake : ∀ a, left' (make a) = left a) : FindsWithin left' source (found.map make) := by
  intro b hfound
  obtain ⟨a, hsome, rfl⟩ := Option.map_eq_some_iff.mp hfound
  rw [hmake]
  exact h a hsome

/-- A reader may go on with what another one leaves. -/
theorem bind (h : FindsWithin left source found) {next : α → Option β} {left' : β → List Char}
    (hnext : ∀ a, FindsWithin left' (left a) (next a)) : FindsWithin left' source (found.bind next) := by
  intro b hfound
  obtain ⟨a, hsome, hrest⟩ := Option.bind_eq_some_iff.mp hfound
  exact (hnext a b hrest).trans (h a hsome)

end FindsWithin

/-- A word leaves a suffix. -/
theorem after?_within (word source : List Char) : FindsWithin id source (Json.after? word source) := by
  intro rest h
  rw [Json.eq_append_of_after? h]
  exact List.suffix_append word rest

/-- A text between three single quotes leaves a suffix. -/
theorem readLiteralLines_within (source : List Char) : FindsWithin Prod.snd source (readLiteralLines source) := by
  fun_induction readLiteralLines source with
  | case1 | case3 => exact findsWithin_none
  | case2 rest => exact findsWithin_some (List.drop_suffix 3 ('\'' :: '\'' :: '\'' :: rest))
  | case4 c rest _ _ ih => exact .of_drop 1 (ih.map fun _ => rfl)

/-- A text between double quotes leaves a suffix. -/
theorem readBasic_within (lines : Bool) (place : BasicPlace) (source : List Char) :
    FindsWithin Prod.snd source (readBasic lines place source) := by
  fun_induction readBasic lines place source with
  -- it gives up, closes the text, skips blanks, also behind a backslash, or goes on after a character or an escape
  | case1 | case4 | case10 | case12 | case13 | case17 | case18 | case19 => exact findsWithin_none
  | case6 => exact findsWithin_some (List.drop_suffix 3 (_ :: _ :: _ :: _))
  | case8 => exact findsWithin_some (List.suffix_cons _ _)
  | case2 | case3 | case5 => exact .of_drop 1 ‹_›
  | case14 | case15 => exact .of_drop 2 ‹_›
  | case7 | case20 => exact .of_drop 1 (.map ‹_› fun _ => rfl)
  | case9 => exact .of_drop 6 (.map ‹_› fun _ => rfl)
  | case11 => exact .of_drop 10 (.map ‹_› fun _ => rfl)
  | case16 => exact .of_drop 2 (.map ‹_› fun _ => rfl)

/-- A field of a date or a time leaves a suffix. -/
theorem readField?_within (count low high : Nat) (source : List Char) :
    FindsWithin Prod.snd source (readField? count low high source) := by
  rw [readField?]
  split
  · exact findsWithin_some (List.drop_suffix count source)
  · exact findsWithin_none

/-- A single character leaves a suffix. -/
theorem afterChar?_within (expected : Char) (source : List Char) :
    FindsWithin id source (afterChar? expected source) := by
  cases source with
  | nil => exact findsWithin_none
  | cons c rest =>
    rw [afterChar?]
    split
    · exact findsWithin_some (List.suffix_cons c rest)
    · exact findsWithin_none

/-- Microseconds leave a suffix. -/
theorem readMicroseconds_isSuffix (source : List Char) : (readMicroseconds source).2 <:+ source := by
  unfold readMicroseconds
  split
  case h_1 rest =>
    dsimp only
    split
    · exact List.suffix_refl _
    · exact (List.dropWhile_suffix _).trans (List.suffix_cons '.' rest)
  case h_2 => exact List.suffix_refl _

/-- A time of day leaves a suffix. -/
theorem readClock?_within (source : List Char) : FindsWithin Prod.snd source (readClock? source) := by
  refine (readField?_within 2 0 23 source).bind fun (_, rest) => ?_
  refine (afterChar?_within ':' rest).bind fun rest => ?_
  refine (readField?_within 2 0 59 rest).bind fun (_, rest) => ?_
  refine (afterChar?_within ':' rest).bind fun rest => ?_
  refine (readField?_within 2 0 59 rest).bind fun (_, rest) => ?_
  exact findsWithin_some (readMicroseconds_isSuffix rest)

/-- A date leaves a suffix. -/
theorem readDate?_within (source : List Char) : FindsWithin Prod.snd source (readDate? source) := by
  refine (readField?_within 4 0 9999 source).bind fun (_, rest) => ?_
  refine (afterChar?_within '-' rest).bind fun rest => ?_
  refine (readField?_within 2 1 12 rest).bind fun (_, rest) => ?_
  refine (afterChar?_within '-' rest).bind fun rest => ?_
  refine (readField?_within 2 1 31 rest).bind fun (_, rest) => ?_
  exact findsWithin_some (List.suffix_refl rest)

/-- A distance from universal time leaves a suffix. -/
theorem readOffset?_within (source : List Char) : FindsWithin Prod.snd source (readOffset? source) := by
  unfold readOffset?
  split
  · exact findsWithin_none
  · split
    · exact findsWithin_some (List.suffix_cons _ _)
    · split
      · refine .of_drop 1 ((readField?_within 2 0 23 _).bind fun (_, rest) => ?_)
        refine (afterChar?_within ':' rest).bind fun rest => ?_
        refine (readField?_within 2 0 59 rest).bind fun (_, rest) => ?_
        exact findsWithin_some (List.suffix_refl rest)
      · exact findsWithin_none

/-- A time of day after a date leaves a suffix. -/
theorem readClockAfterDate?_within (source : List Char) :
    FindsWithin Prod.snd source (readClockAfterDate? source) := by
  unfold readClockAfterDate?
  split
  · split
    · exact .of_drop 1 (readClock?_within _)
    · exact findsWithin_none
  · exact findsWithin_none

/-- A truth value leaves a suffix. -/
theorem readBool?_within (source : List Char) : FindsWithin Prod.snd source (readBool? source) := by
  unfold readBool?
  split
  case h_1 rest hrest => exact findsWithin_some (after?_within _ source rest hrest)
  case h_2 => exact (after?_within _ source).map fun _ => rfl

/-- A sign leaves a suffix. -/
theorem splitSign_isSuffix (source : List Char) : (Number.splitSign source).2 <:+ source := by
  unfold Number.splitSign
  split
  · exact List.suffix_cons _ _
  · exact List.suffix_cons _ _
  · exact List.suffix_refl _

/-- A number that is infinite or none leaves a suffix. -/
theorem readSpecial?_within (source : List Char) : FindsWithin Prod.snd source (readSpecial? source) := by
  unfold readSpecial?
  dsimp only
  split
  case h_1 rest hrest =>
    exact findsWithin_some ((after?_within _ _ rest hrest).trans (splitSign_isSuffix source))
  case h_2 => exact .of_isSuffix (.map (after?_within _ _) fun _ => rfl) (splitSign_isSuffix source)

/-! ## Digits -/

/-- The source begins with digits that underscores may separate; the digits are shown without the underscores. -/
def Spans (isDigit : Char → Bool) (source shown rest : List Char) : Prop :=
  ∃ front, source = front ++ rest ∧ (∀ c ∈ front, isDigit c = true ∨ c = '_') ∧ front.countP isDigit = shown.length

namespace Spans

variable {isDigit : Char → Bool} {shown : List Char}

/-- Digits leave a suffix. -/
theorem isSuffix (h : Spans isDigit source shown rest) : rest <:+ source := by
  obtain ⟨front, rfl, -⟩ := h
  exact List.suffix_append front rest

/-- No digits at all. -/
theorem nil (isDigit : Char → Bool) (source : List Char) : Spans isDigit source [] source :=
  ⟨[], rfl, nofun, rfl⟩

/-- One more digit. -/
theorem cons {c : Char} (hc : isDigit c = true) (h : Spans isDigit source shown rest) :
    Spans isDigit (c :: source) (c :: shown) rest := by
  obtain ⟨front, rfl, hfront, hcount⟩ := h
  refine ⟨c :: front, rfl, List.forall_mem_cons.mpr ⟨.inl hc, hfront⟩, ?_⟩
  rw [List.countP_cons_of_pos hc, hcount, List.length_cons]

/-- An underscore before digits. -/
theorem underscore (hmark : isDigit '_' = false) (h : Spans isDigit source shown rest) :
    Spans isDigit ('_' :: source) shown rest := by
  obtain ⟨front, rfl, hfront, hcount⟩ := h
  refine ⟨'_' :: front, rfl, List.forall_mem_cons.mpr ⟨.inr rfl, hfront⟩, ?_⟩
  rw [List.countP_cons_of_neg (Bool.eq_false_iff.mp hmark), hcount]

end Spans

variable {isDigit : Char → Bool} {shown : List Char}

/-- Digits are read from the beginning of the source. -/
theorem readDigits_spans (hmark : isDigit '_' = false) (source : List Char) :
    Spans isDigit source (readDigits isDigit source).1 (readDigits isDigit source).2 := by
  fun_induction readDigits isDigit source with
  | case1 => exact .nil isDigit []
  | case2 c rest hc more tail hmore ih =>
    rw [hmore] at ih
    exact ih.cons hc
  | case3 d rest hd more tail hmore _ ih =>
    rw [hmore] at ih
    exact (ih.cons hd).underscore hmark
  | case4 | case5 | case6 => exact .nil isDigit _

/-- Digits that nothing separates are read to the end. -/
theorem readDigits_of_digits (h : ∀ c ∈ source, isDigit c = true) : readDigits isDigit source = (source, []) := by
  induction source with
  | nil => rfl
  | cons c rest ih =>
    rw [List.forall_mem_cons] at h
    rw [readDigits.eq_def]
    simp only [if_pos h.1, ih h.2]

/-- Digits of which the first is no underscore are read from the beginning of the source. -/
theorem readDigits?_spans (hmark : isDigit '_' = false) (h : readDigits? isDigit source = some (shown, rest)) :
    Spans isDigit source shown rest := by
  cases source with
  | nil => cases h
  | cons c source =>
    rw [readDigits?] at h
    split at h
    case isTrue hc =>
      cases h
      exact (readDigits_spans hmark source).cons hc
    case isFalse => cases h

/-- Digits of which the first is no underscore leave a suffix. -/
theorem readDigits?_within (hmark : isDigit '_' = false) (source : List Char) :
    FindsWithin Prod.snd source (readDigits? isDigit source) :=
  fun _ h => (readDigits?_spans hmark h).isSuffix

/-- A whole number that is not decimal leaves a suffix. -/
theorem readBased?_within (source : List Char) : FindsWithin Prod.snd source (readBased? source) := by
  have hnumber (base : Nat) (isDigit : Char → Bool) (hmark : isDigit '_' = false) (source : List Char) :
      FindsWithin Prod.snd source (readBased?.number base isDigit source) :=
    (readDigits?_within hmark source).map fun _ => rfl
  unfold readBased?
  split
  · exact .of_drop 2 (hnumber _ _ (by decide) _)
  · exact .of_drop 2 (hnumber _ _ (by decide) _)
  · exact .of_drop 2 (hnumber _ _ (by decide) _)
  · exact findsWithin_none

/-- The digits before a point are read from the beginning of the source. -/
theorem readWhole?_spans (h : readWhole? source = some (shown, rest)) : Spans Char.isDigit source shown rest := by
  unfold readWhole? at h
  split at h
  · cases h
    exact (Spans.nil _ rest).cons (by decide)
  · exact readDigits?_spans (by decide) h

/-- The digits after a point leave a suffix. -/
theorem readFraction_isSuffix (source : List Char) : (readFraction source).2 <:+ source := by
  unfold readFraction
  split
  case h_1 rest =>
    cases hdigits : readDigits? Char.isDigit rest with
    | none => exact List.suffix_refl _
    | some found => exact (readDigits?_within (by decide) rest _ hdigits).trans (List.suffix_cons '.' rest)
  case h_2 => exact List.suffix_refl _

/-- An exponent leaves a suffix. -/
theorem readExponent_isSuffix (source : List Char) : (readExponent source).2 <:+ source := by
  cases source with
  | nil => exact List.suffix_refl _
  | cons mark rest =>
    rw [readExponent]
    split
    · dsimp only
      split
      case h_1 shown tail hdigits =>
        have htail : tail <:+ (Number.splitSign rest).2 := readDigits?_within (by decide) _ _ hdigits
        exact (htail.trans (splitSign_isSuffix rest)).trans (List.suffix_cons mark rest)
      case h_2 => exact List.suffix_refl _
    · exact List.suffix_refl _

/-! ## Readers that may fail -/

/-- The text holds a numeral of `n` digits, more than can be read. -/
def HasLongNumeral (n : Nat) (source : List Char) : Prop :=
  ∃ numeral, numeral <:+: source ∧ (∀ c ∈ numeral, c.isDigit = true ∨ c = '_') ∧
    numeral.countP Char.isDigit = n ∧ Number.digitLimit < n

/-- A numeral that stands in a part of a text stands in the text. -/
theorem HasLongNumeral.of_isInfix {n : Nat} (h : HasLongNumeral n rest) (hpart : rest <:+: source) :
    HasLongNumeral n source := by
  obtain ⟨numeral, hnumeral, hdigits⟩ := h
  exact ⟨numeral, hnumeral.trans hpart, hdigits⟩

/-- A text that holds a numeral that is too long is too long itself. -/
theorem HasLongNumeral.limit_lt_length {n : Nat} (h : HasLongNumeral n source) : Number.digitLimit < source.length := by
  obtain ⟨numeral, hnumeral, -, hcount, hlong⟩ := h
  have hnumerals : numeral.countP Char.isDigit ≤ source.length :=
    Nat.le_trans List.countP_le_length hnumeral.length_le
  omega

/-- What is left after an answer is a suffix of the source, and a numeral that is too long stands in the source. -/
def ReadsFrom (left : α → List Char) (source : List Char) : Except ReadFault α → Prop
  | .ok a => left a <:+ source
  | .error .malformed => True
  | .error (.numeralTooLong n) => HasLongNumeral n source

namespace ReadsFrom

variable {answer : Except ReadFault α} {left' : β → List Char}

/-- What is read from a suffix is read from the source. -/
theorem of_isSuffix (h : ReadsFrom left rest answer) (hsuffix : rest <:+ source) : ReadsFrom left source answer := by
  cases answer with
  | ok a => exact List.IsSuffix.trans h hsuffix
  | error fault =>
    cases fault with
    | malformed => exact trivial
    | numeralTooLong n => exact HasLongNumeral.of_isInfix h hsuffix.isInfix

/-- What is read after some characters is read from the source. -/
theorem of_drop (k : Nat) (h : ReadsFrom left (source.drop k) answer) : ReadsFrom left source answer :=
  h.of_isSuffix (List.drop_suffix k source)

/-- A reader may go on with what another one leaves. -/
theorem bind (h : ReadsFrom left source answer) {next : α → Except ReadFault β}
    (hnext : ∀ a, ReadsFrom left' (left a) (next a)) : ReadsFrom left' source (answer >>= next) := by
  cases answer with
  | ok a => exact (hnext a).of_isSuffix h
  | error fault => cases fault <;> exact h

/-- What is made of an answer leaves what the answer leaves. -/
theorem map (h : ReadsFrom left source answer) {make : α → β} (hmake : ∀ a, left' (make a) = left a) :
    ReadsFrom left' source (answer.map make) := by
  cases answer with
  | ok a =>
    rw [Except.map, ReadsFrom, hmake]
    exact h
  | error fault => cases fault <;> exact h

end ReadsFrom

/-- What has to be found is read where it is found. -/
theorem readsFrom_required {found : Option α} (h : FindsWithin left source found) :
    ReadsFrom left source (required found) := by
  cases found with
  | none => exact trivial
  | some a => exact h a rfl

/-- A reader may go on where it is after a step that reads nothing and finds no numeral too long. -/
theorem readsFrom_bind_step {step : Except ReadFault α} (hstep : ∀ n, step ≠ .error (.numeralTooLong n))
    {next : α → Except ReadFault β} {left' : β → List Char} (hnext : ∀ a, ReadsFrom left' source (next a)) :
    ReadsFrom left' source (step >>= next) := by
  cases step with
  | ok a => exact hnext a
  | error fault =>
    cases fault with
    | malformed => exact trivial
    | numeralTooLong n => exact absurd rfl (hstep n)

/-- What has to be there but is not is no numeral that is too long. -/
theorem required_ne_long (found : Option α) (n : Nat) : required found ≠ .error (.numeralTooLong n) := by
  cases found <;> nofun

/-- Nor is it once something is made of what is there. -/
theorem required_bind_ne_long (found : Option α) (make : α → β) (n : Nat) :
    (required found >>= fun a => pure (make a)) ≠ .error (.numeralTooLong n) := by
  cases found <;> nofun

/-- A comment leaves a suffix. -/
theorem skipComment_from (source : List Char) : ReadsFrom id source (skipComment source) := by
  unfold skipComment
  split
  case h_1 rest =>
    split
    · exact trivial
    · exact (List.dropWhile_suffix _).trans (List.suffix_cons '#' rest)
  case h_2 => exact List.suffix_refl source

/-- Blanks, ends of lines and comments leave a suffix. -/
theorem skipFiller_from (inside : Bool) (source : List Char) : ReadsFrom id source (skipFiller inside source) := by
  induction source generalizing inside with
  | nil => exact List.suffix_refl []
  | cons c rest ih =>
    rw [skipFiller]
    repeat' split
    · exact .of_drop 1 (ih false)
    · exact trivial
    · exact .of_drop 1 (ih true)
    · exact .of_drop 1 (ih false)
    · exact .of_drop 1 (ih true)
    · exact List.suffix_refl _

/-- Blanks leave a suffix. -/
theorem skipBlanks_isSuffix (source : List Char) : skipBlanks source <:+ source :=
  List.dropWhile_suffix _

/-- A text between single quotes leaves a suffix. -/
theorem readLiteral_from (source : List Char) : ReadsFrom Prod.snd source (readLiteral source) := by
  unfold readLiteral
  dsimp only
  split
  case h_1 quote rest hrest =>
    split
    · exact trivial
    · have hsuffix : quote :: rest <:+ source := hrest ▸ List.dropWhile_suffix _
      exact (List.suffix_cons quote rest).trans hsuffix
  case h_2 => exact trivial

/-- The end of the line after opening quotes leaves a suffix. -/
theorem skipFirstLineEnd_isSuffix (source : List Char) : skipFirstLineEnd source <:+ source := by
  unfold skipFirstLineEnd
  split
  · exact List.suffix_cons _ _
  · exact List.suffix_refl source

/-- Further quotes before the closing ones leave a suffix. -/
theorem withExtraQuotes_isSuffix (quote : Char) (content rest : List Char) :
    (withExtraQuotes quote content rest).2 <:+ rest := by
  unfold withExtraQuotes
  split
  case h_1 a b more =>
    repeat' split
    · exact List.drop_suffix 2 (a :: b :: more)
    · exact List.suffix_cons a (b :: more)
    · exact List.suffix_refl _
  case h_2 a =>
    split
    · exact List.nil_suffix
    · exact List.suffix_refl _
  case h_3 => exact List.suffix_refl _

/-- A text of several lines leaves a suffix. -/
theorem readsFrom_lines (quote : Char) {found : Option (List Char × List Char)}
    (h : FindsWithin Prod.snd source found) :
    ReadsFrom Prod.snd source ((required found).map fun (content, tail) => withExtraQuotes quote content tail) := by
  cases found with
  | none => exact trivial
  | some read => exact (withExtraQuotes_isSuffix quote read.1 read.2).trans (h read rfl)

/-- A quoted text leaves a suffix. -/
theorem readQuoted?_from {reading : Except ReadFault (String × List Char)} (h : readQuoted? source = some reading) :
    ReadsFrom Prod.snd source reading := by
  unfold readQuoted? at h
  split at h
  · cases h
    exact .of_drop 3 (.of_isSuffix (readsFrom_lines '"' (readBasic_within true .plain _)) (skipFirstLineEnd_isSuffix _))
  · cases h
    exact .of_drop 1 ((readsFrom_required (readBasic_within false .plain _)).map fun _ => rfl)
  · cases h
    exact .of_drop 3 (.of_isSuffix (readsFrom_lines '\'' (readLiteralLines_within _)) (skipFirstLineEnd_isSuffix _))
  · cases h
    exact .of_drop 1 (readLiteral_from _)
  · cases h

/-- One part of a key leaves a suffix. -/
theorem readKeyPart_from (source : List Char) : ReadsFrom Prod.snd source (readKeyPart source) := by
  unfold readKeyPart
  split
  · exact .of_drop 1 (readLiteral_from _)
  · exact .of_drop 1 ((readsFrom_required (readBasic_within false .plain _)).map fun _ => rfl)
  · dsimp only
    split
    · exact trivial
    · exact List.dropWhile_suffix _

/-- A key leaves a suffix. -/
theorem readKey_from (fuel : Nat) (source : List Char) : ReadsFrom Prod.snd source (readKey fuel source) := by
  induction fuel generalizing source with
  | zero => exact trivial
  | succ fuel ih =>
    refine (readKeyPart_from source).bind fun (part, rest) => ?_
    refine .of_isSuffix ?_ (skipBlanks_isSuffix rest)
    dsimp only
    split
    case h_1 more hmore =>
      rw [hmore]
      refine .of_drop 1 (.of_isSuffix ?_ (skipBlanks_isSuffix more))
      exact (ih (skipBlanks more)).bind fun (parts, tail) => List.suffix_refl tail
    case h_2 => exact List.suffix_refl _

/-- A decimal number leaves a suffix, and one that is too long stands in the source. -/
theorem readDecimal?_from {reading : Except ReadFault (Value × List Char)} (h : readDecimal? source = some reading) :
    ReadsFrom Prod.snd source reading := by
  refine .of_isSuffix ?_ (splitSign_isSuffix source)
  obtain ⟨⟨whole, rest⟩, hwhole, rfl⟩ := Option.map_eq_some_iff.mp h
  have hspans := readWhole?_spans hwhole
  have hsuffix : (readExponent (readFraction rest).2).2 <:+ (Number.splitSign source).2 :=
    ((readExponent_isSuffix _).trans (readFraction_isSuffix rest)).trans hspans.isSuffix
  dsimp only
  split
  · split
    case isTrue hlong =>
      obtain ⟨front, hfront, hdigits, hcount⟩ := hspans
      exact ⟨front, hfront ▸ (List.prefix_append front rest).isInfix, hdigits, hcount, hlong⟩
    case isFalse => exact hsuffix
  · exact hsuffix

/-- A date or a time leaves a suffix. -/
theorem readMoment?_from {reading : Except ReadFault (Value × List Char)} (h : readMoment? source = some reading) :
    ReadsFrom Prod.snd source reading := by
  unfold readMoment? at h
  split at h
  case h_1 date rest hdate =>
    have hrest : rest <:+ source := readDate?_within source _ hdate
    split at h
    · cases h
      exact trivial
    · split at h
      · cases h
        exact hrest
      case h_2 clock more hclock =>
        have hmore : more <:+ source := (readClockAfterDate?_within rest _ hclock).trans hrest
        split at h
        case h_1 offset tail hoffset =>
          cases h
          exact List.IsSuffix.trans (readOffset?_within more _ hoffset) hmore
        case h_2 =>
          cases h
          exact hmore
  case h_2 =>
    obtain ⟨⟨clock, rest⟩, hclock, rfl⟩ := Option.map_eq_some_iff.mp h
    exact readClock?_within source _ hclock

/-- A plain value leaves a suffix. -/
theorem readScalar_from (source : List Char) : ReadsFrom Prod.snd source (readScalar source) := by
  unfold readScalar
  split
  case h_1 reading hquoted => exact (readQuoted?_from hquoted).map fun _ => rfl
  case h_2 =>
    split
    case h_1 found hbool => exact readBool?_within source found hbool
    case h_2 =>
      split
      case h_1 reading hmoment => exact readMoment?_from hmoment
      case h_2 =>
        split
        case h_1 found hbased => exact readBased?_within source found hbased
        case h_2 =>
          split
          case h_1 reading hdecimal => exact readDecimal?_from hdecimal
          case h_2 => exact readsFrom_required (readSpecial?_within source)

end Emptiness.Toml
