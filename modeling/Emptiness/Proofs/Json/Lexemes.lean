import Emptiness.Proofs.Fault
import Emptiness.Proofs.Json.Document
import Emptiness.Proofs.Json.Grammar

/-!
# Reading blanks, texts and numbers

The smallest parts of a document are read as the grammar spells them. What is read of a text or a number is spelled at
its beginning; conversely what is spelled there is read, provided that the text after a number does not go on with a
character of numbers. A whole numeral that is too long is reported exactly if it ends as a whole number does.
-/

namespace Emptiness.Json

variable {source rest : List Char}

/-- Every text is a margin and itself, with no blanks. -/
theorem Margin.refl (source : List Char) : Margin source source :=
  ⟨[], nofun, rfl⟩

/-- The blanks that a text begins with are a margin. -/
theorem margin_skipSpace (source : List Char) : Margin source (skipSpace source) := by
  refine ⟨source.takeWhile isSpace, fun c hc => ?_, List.takeWhile_append_dropWhile.symm⟩
  exact List.all_eq_true.mp List.all_takeWhile c hc

/-- What is left after the blanks are skipped is what follows a margin. -/
theorem margin_of_skipSpace_eq (h : skipSpace source = rest) : Margin source rest :=
  h ▸ margin_skipSpace source

/-- A margin is skipped if no further blank follows. -/
theorem Margin.skipSpace_eq (h : Margin source rest) (hstops : Text.Stops isSpace rest) : skipSpace source = rest := by
  obtain ⟨blanks, hblanks, rfl⟩ := h
  exact Text.dropWhile_append hblanks hstops

/-- What is inside a margin is the end of the text. -/
theorem Margin.isSuffix (h : Margin source rest) : rest <:+ source := by
  obtain ⟨blanks, -, rfl⟩ := h
  exact List.suffix_append _ _

/-- A margin is not longer without its blanks. -/
theorem Margin.length_le (h : Margin source rest) : rest.length ≤ source.length :=
  h.isSuffix.length_le

/-- A mark after a margin makes what follows it shorter. -/
theorem Margin.length_lt {mark : Char} (h : Margin source (mark :: rest)) : rest.length < source.length :=
  h.length_le

/-- So it is with a margin after the mark. -/
theorem Margin.length_lt_of_mark {mark : Char} {more : List Char} (h : Margin source (mark :: more))
    (hmargin : Margin more rest) : rest.length < source.length :=
  Nat.lt_of_le_of_lt hmargin.length_le h.length_lt

/-- Where blanks begin, no number goes on, nor where it does not go on after them. -/
theorem Margin.stops_number (h : Margin source rest) (hstops : Text.Stops continuesNumber rest) :
    Text.Stops continuesNumber source := by
  obtain ⟨blanks, hblanks, rfl⟩ := h
  cases blanks with
  | nil => exact hstops
  | cons blank more =>
    have hblank := hblanks blank List.mem_cons_self
    simp only [isSpace, Bool.or_eq_true, decide_eq_true_eq] at hblank
    refine Text.stops_cons.mpr ?_
    obtain ((rfl | rfl) | rfl) | rfl := hblank <;> rfl

/-! ## Texts -/

/-- An escape by four digits is read as the code unit that they stand for. -/
theorem readUnits_hex {a b c d : Char} {unit : Nat} {units : List Nat} (hunit : hexUnit? a b c d = some unit)
    (h : readUnits source = some (units, rest)) :
    readUnits ('\\' :: 'u' :: a :: b :: c :: d :: source) = some (unit :: units, rest) := by
  rw [readUnits]
  simp [hunit, h]

/-- The code units that are spelled are read. -/
theorem SpellsUnits.read {units : List Nat} (h : SpellsUnits units source rest) :
    readUnits source = some (units, rest) := by
  induction h with
  | close => rw [readUnits.eq_def]; rfl
  | plain hquote hmark hprinted _ ih => exact readUnits_plain hquote hmark (Nat.not_lt.mpr hprinted) ih
  | letter hletter _ ih =>
    refine readUnits_letter hletter ?_ ih
    rintro rfl
    cases hletter
  | hex hunit _ ih => exact readUnits_hex hunit ih

/-- The code units that are read are spelled. -/
theorem spells_of_readUnits {units : List Nat} (h : readUnits source = some (units, rest)) :
    SpellsUnits units source rest := by
  fun_induction readUnits source generalizing units rest
  case case2 =>
    cases h
    exact .close
  case case3 hunit _ ih =>
    obtain ⟨⟨others, tail⟩, hread, hpair⟩ := Option.map_eq_some_iff.mp h
    cases hpair
    exact .hex hunit (ih hread)
  case case5 hletter _ ih =>
    obtain ⟨⟨others, tail⟩, hread, hpair⟩ := Option.map_eq_some_iff.mp h
    cases hpair
    exact .letter hletter (ih hread)
  case case9 hquote hmark hprinted ih =>
    obtain ⟨⟨others, tail⟩, hread, hpair⟩ := Option.map_eq_some_iff.mp h
    cases hpair
    exact .plain hquote hmark (Nat.le_of_not_lt hprinted) (ih hread)
  all_goals cases h

/-- A text that is read is spelled. -/
theorem spells_of_readText {s : Text} (h : readText source = .ok (s, rest)) :
    ∃ units, SpellsUnits units source rest ∧ s = joinUnits units := by
  unfold readText at h
  split at h
  · next units tail hunits =>
    cases h
    exact ⟨units, spells_of_readUnits hunits, rfl⟩
  · cases h

/-- A text that is spelled is read. -/
theorem SpellsUnits.readText_eq {units : List Nat} (h : SpellsUnits units source rest) :
    readText source = .ok (joinUnits units, rest) := by
  rw [readText, h.read]

/-- A text that is not read is malformed. -/
theorem readText_ne_long (source : List Char) (n : Nat) : readText source ≠ .error (.numeralTooLong n) := by
  unfold readText
  split <;> exact nofun

/-! ## Parts of numbers -/

/-- Digits begin with a digit. -/
theorem exists_isDigit_cons_of_ne_nil {digits : List Char} (hne : digits ≠ [])
    (hdigits : ∀ c ∈ digits, c.isDigit = true) : ∃ first more, digits = first :: more ∧ first.isDigit = true := by
  obtain ⟨first, more, rfl⟩ := List.exists_cons_of_ne_nil hne
  exact ⟨first, more, rfl, hdigits first List.mem_cons_self⟩

/-- Of digits that stand at the beginning of a text, some are taken. -/
theorem takeWhile_isDigit_ne_nil {digits : List Char} (hne : digits ≠ []) (hdigits : ∀ c ∈ digits, c.isDigit = true) :
    (digits ++ rest).takeWhile Char.isDigit ≠ [] := by
  obtain ⟨first, more, rfl, hfirst⟩ := exists_isDigit_cons_of_ne_nil hne hdigits
  rw [List.cons_append, List.takeWhile_cons_of_pos hfirst]
  exact List.cons_ne_nil _ _

/-- The digits that are read before the point are those of a whole number, and all of them unless it is zero. -/
theorem isWhole_of_readWhole? {whole : List Char} (h : readWhole? source = some (whole, rest)) :
    IsWhole whole ∧ source = whole ++ rest ∧ (whole ≠ ['0'] → Text.Stops Char.isDigit rest) := by
  have hdigits := isDigit_of_readWhole? h
  unfold readWhole? at h
  split at h
  case h_1 =>
    cases h
    exact ⟨⟨List.cons_ne_nil _ _, hdigits, fun _ => rfl⟩, rfl, fun hne => absurd rfl hne⟩
  case h_2 hzero =>
    dsimp only at h
    split at h
    case isTrue => cases h
    case isFalse hne =>
      cases h
      refine ⟨⟨fun hnil => hne (hnil ▸ rfl), hdigits, fun hhead => ?_⟩, List.takeWhile_append_dropWhile.symm,
        fun _ => ?_⟩
      · cases source with
        | nil => cases hhead
        | cons c more =>
          rw [List.head?_takeWhile, List.head?_cons, Option.filter_eq_some_iff] at hhead
          cases hhead.1
          exact absurd rfl (hzero more)
      · exact Text.stops_dropWhile Char.isDigit source

/-- The digits of a whole number are read before the point, up to where the digits end. -/
theorem IsWhole.read {whole : List Char} (h : IsWhole whole) (hstops : Text.Stops Char.isDigit rest) :
    readWhole? (whole ++ rest) = some (whole, rest) := by
  obtain ⟨first, more, rfl, -⟩ := exists_isDigit_cons_of_ne_nil h.ne_nil h.isDigit
  by_cases hzero : first = '0'
  · subst hzero
    rw [h.zero rfl]
    rfl
  · rw [List.cons_append, readWhole?]
    · rw [← List.cons_append, Text.takeWhile_append h.isDigit hstops, Text.dropWhile_append h.isDigit hstops]
      rfl
    · exact fun other hother => hzero (List.cons.inj hother).1

/-- Where no fraction is spelled, nothing is left out. -/
theorem SpellsFraction.eq_of_nil (h : SpellsFraction [] source rest) : source = rest := by
  cases h with
  | absent => rfl
  | point hne => exact absurd rfl hne

/-- The fraction that is read is spelled. -/
theorem spells_of_readFraction {fraction : List Char} (h : readFraction source = (fraction, rest)) :
    SpellsFraction fraction source rest := by
  unfold readFraction at h
  split at h
  case h_1 more =>
    dsimp only at h
    split at h
    case isTrue =>
      cases h
      exact .absent
    case isFalse hne =>
      cases h
      have hsplit := @List.takeWhile_append_dropWhile _ Char.isDigit more
      have hspells : SpellsFraction (more.takeWhile Char.isDigit)
          ('.' :: (more.takeWhile Char.isDigit ++ more.dropWhile Char.isDigit)) (more.dropWhile Char.isDigit) :=
        .point (fun hnil => hne (hnil ▸ rfl)) (List.all_eq_true.mp List.all_takeWhile)
      rwa [hsplit] at hspells
  case h_2 =>
    cases h
    exact .absent

/-- Where a fraction is spelled, it is read up to where its digits end. -/
theorem readFraction_point {digits : List Char} (hne : digits ≠ []) (hdigits : ∀ c ∈ digits, c.isDigit = true) :
    readFraction ('.' :: (digits ++ rest)) =
      ((digits ++ rest).takeWhile Char.isDigit, (digits ++ rest).dropWhile Char.isDigit) := by
  rw [readFraction, if_neg (mt List.isEmpty_iff.mp (takeWhile_isDigit_ne_nil hne hdigits))]

/-- A fraction that is spelled is read, unless what follows goes on with it. -/
theorem SpellsFraction.read {fraction : List Char} (h : SpellsFraction fraction source rest)
    (hstops : Text.Stops (fun c => c.isDigit || c = '.') rest) : readFraction source = (fraction, rest) := by
  cases h with
  | absent =>
    unfold readFraction
    split
    · cases Text.stops_cons.mp hstops
    · rfl
  | point hne hdigits =>
    have hdigit : Text.Stops Char.isDigit rest := fun c hc => (Bool.or_eq_false_iff.mp (hstops c hc)).1
    rw [readFraction_point hne hdigits, Text.takeWhile_append hdigits hdigit, Text.dropWhile_append hdigits hdigit]

/-- A sign is split off from the digits after it. -/
theorem splitSign_append {negative : Bool} {sign digits : List Char} (hsign : (negative, sign) ∈ signs)
    (hne : digits ≠ []) (hdigits : ∀ c ∈ digits, c.isDigit = true) :
    Number.splitSign (sign ++ (digits ++ rest)) = (negative, digits ++ rest) := by
  obtain ⟨first, more, rfl, hfirst⟩ := exists_isDigit_cons_of_ne_nil hne hdigits
  simp only [signs, List.mem_cons, Prod.mk.injEq, List.not_mem_nil, or_false] at hsign
  obtain ⟨rfl, rfl⟩ | ⟨rfl, rfl⟩ | ⟨rfl, rfl⟩ := hsign
  · rw [List.nil_append, List.cons_append, Number.splitSign]
    · exact fun other hother => ne_of_isDigit hfirst rfl (List.cons.inj hother).1.symm
    · exact fun other hother => ne_of_isDigit hfirst rfl (List.cons.inj hother).1.symm
  · rfl
  · rfl

/-- What is split off is a sign. -/
theorem exists_sign (source : List Char) :
    ∃ sign, ((Number.splitSign source).1, sign) ∈ signs ∧ source = sign ++ (Number.splitSign source).2 := by
  unfold Number.splitSign
  split
  · exact ⟨['-'], by simp [signs], rfl⟩
  · exact ⟨['+'], by simp [signs], rfl⟩
  · exact ⟨[], by simp [signs], rfl⟩

/-- Where no exponent is spelled, nothing is left out. -/
theorem SpellsExponent.eq_of_none (h : SpellsExponent none source rest) : source = rest := by
  cases h
  rfl

/-- The exponent that is read is spelled. -/
theorem spells_of_readExponent {exponent : Option Int} (h : readExponent source = (exponent, rest)) :
    SpellsExponent exponent source rest := by
  unfold readExponent at h
  split at h
  case h_1 =>
    cases h
    exact .absent
  case h_2 mark more =>
    split at h
    case isFalse =>
      cases h
      exact .absent
    case isTrue hmark =>
      obtain ⟨sign, hsign, hmore⟩ := exists_sign more
      obtain ⟨negative, unsigned, hunsigned⟩ : ∃ negative unsigned, Number.splitSign more = (negative, unsigned) :=
        ⟨_, _, rfl⟩
      rw [hunsigned] at h hsign hmore
      dsimp only at h hsign hmore
      split at h
      case isTrue =>
        cases h
        exact .absent
      case isFalse hne =>
        cases h
        have hsplit := @List.takeWhile_append_dropWhile _ Char.isDigit unsigned
        have hspells : SpellsExponent (some (signed negative (Number.ofDigits (unsigned.takeWhile Char.isDigit))))
            (mark :: (sign ++ (unsigned.takeWhile Char.isDigit ++ unsigned.dropWhile Char.isDigit)))
            (unsigned.dropWhile Char.isDigit) :=
          .marked (by simpa using hmark) hsign (fun hnil => hne (hnil ▸ rfl)) (List.all_eq_true.mp List.all_takeWhile)
        rwa [hsplit, ← hmore] at hspells

/-- Where an exponent is spelled, it is read up to where its digits end. -/
theorem readExponent_marked {mark : Char} {negative : Bool} {sign digits : List Char} (hmark : mark = 'e' ∨ mark = 'E')
    (hsign : (negative, sign) ∈ signs) (hne : digits ≠ []) (hdigits : ∀ c ∈ digits, c.isDigit = true) :
    readExponent (mark :: (sign ++ (digits ++ rest))) =
      (some (signed negative (Number.ofDigits ((digits ++ rest).takeWhile Char.isDigit))),
        (digits ++ rest).dropWhile Char.isDigit) := by
  have hmarked : (decide (mark = 'e') || decide (mark = 'E')) = true := by simpa using hmark
  rw [readExponent, if_pos hmarked, splitSign_append hsign hne hdigits]
  dsimp only
  rw [if_neg (mt List.isEmpty_iff.mp (takeWhile_isDigit_ne_nil hne hdigits))]
  rfl

/-- An exponent that is spelled is read, up to where the number ends. -/
theorem SpellsExponent.read {exponent : Option Int} (h : SpellsExponent exponent source rest)
    (hstops : Text.Stops continuesNumber rest) : readExponent source = (exponent, rest) := by
  cases h with
  | absent => exact readExponent_of_stops hstops
  | marked hmark hsign hne hdigits =>
    rw [readExponent_marked hmark hsign hne hdigits, Text.takeWhile_append hdigits (stops_digits hstops),
      Text.dropWhile_append hdigits (stops_digits hstops)]

/-- Where an exponent is spelled, no fraction is, and the digits before it end. -/
theorem SpellsExponent.stops {exponent : Option Int} (h : SpellsExponent exponent source rest)
    (hstops : Text.Stops continuesNumber rest) : Text.Stops (fun c => c.isDigit || c = '.') source := by
  cases h with
  | absent =>
    intro c hc
    have hnone := hstops c hc
    simp only [continuesNumber, Bool.or_eq_false_iff] at hnone ⊢
    exact hnone.1.1
  | marked hmark =>
    obtain rfl | rfl := hmark <;> exact Text.stops_cons.mpr rfl

/-! ## Numbers -/

/-- Where a number does not go on, a whole one ends. -/
theorem numberEnds_of_stops (h : Text.Stops continuesNumber rest) : NumberEnds rest where
  stops := stops_digits h
  no_fraction fraction more hfraction := by
    cases hfraction with
    | absent => rfl
    | point => cases Text.stops_cons.mp h
  no_exponent exponent more hexponent := by
    cases hexponent with
    | absent => rfl
    | marked hmark => obtain rfl | rfl := hmark <;> cases Text.stops_cons.mp h

/-- Where a whole number ends, no fraction is read. -/
theorem NumberEnds.readFraction_eq (h : NumberEnds rest) : readFraction rest = ([], rest) := by
  obtain ⟨fraction, more, hread⟩ : ∃ fraction more, readFraction rest = (fraction, more) := ⟨_, _, rfl⟩
  have hspells := spells_of_readFraction hread
  obtain rfl := h.no_fraction _ _ hspells
  rw [hread, hspells.eq_of_nil]

/-- Where a whole number ends, no exponent is read. -/
theorem NumberEnds.readExponent_eq (h : NumberEnds rest) : readExponent rest = (none, rest) := by
  obtain ⟨exponent, more, hread⟩ : ∃ exponent more, readExponent rest = (exponent, more) := ⟨_, _, rfl⟩
  have hspells := spells_of_readExponent hread
  obtain rfl := h.no_exponent _ _ hspells
  rw [hread, hspells.eq_of_none]

/-- Where neither a fraction nor an exponent is read after the digits, a whole number ends. -/
theorem numberEnds_of_read (hstops : Text.Stops Char.isDigit rest) (hfraction : readFraction rest = ([], rest))
    (hexponent : readExponent rest = (none, rest)) : NumberEnds rest where
  stops := hstops
  no_fraction fraction more hspells := by
    cases hspells with
    | absent => rfl
    | point hne hdigits =>
      rw [readFraction_point hne hdigits] at hfraction
      exact absurd (Prod.mk.inj hfraction).1 (takeWhile_isDigit_ne_nil hne hdigits)
  no_exponent exponent more hspells := by
    cases hspells with
    | absent => rfl
    | marked hmark hsign hne hdigits =>
      rw [readExponent_marked hmark hsign hne hdigits] at hexponent
      cases hexponent

/-- A minus sign is read before a digit. -/
theorem readMinus_append (negative : Bool) {whole : List Char} (h : IsWhole whole) :
    readMinus (minus negative ++ (whole ++ rest)) = (negative, whole ++ rest) := by
  cases negative with
  | true => rfl
  | false =>
    obtain ⟨first, more, rfl, hfirst⟩ := exists_isDigit_cons_of_ne_nil h.ne_nil h.isDigit
    refine readMinus.eq_2 _ fun other hother => ?_
    exact ne_of_isDigit hfirst rfl (List.cons.inj hother).1.symm

/-- The minus sign that is read stands before the rest. -/
theorem eq_minus_append (source : List Char) : source = minus (readMinus source).1 ++ (readMinus source).2 := by
  unfold readMinus
  split <;> rfl

/-- A number is read from its parts: without a fraction and an exponent it is whole, and must not be too long. -/
theorem readNumber_of_parts {unsigned whole fraction middle after : List Char} {negative : Bool} {exponent : Option Int}
    (hminus : readMinus source = (negative, unsigned)) (hwhole : readWhole? unsigned = some (whole, middle))
    (hfraction : readFraction middle = (fraction, after)) (hexponent : readExponent after = (exponent, rest)) :
    readNumber source =
      if fraction = [] ∧ exponent = none then
        if Number.digitLimit < whole.length then .error (.numeralTooLong whole.length)
        else .ok (.int (signed negative (Number.ofDigits whole)), rest)
      else .ok (decimal negative whole fraction exponent, rest) := by
  simp only [readNumber, hminus, hwhole, hfraction, hexponent]
  cases fraction <;> cases exponent <;> rfl

/-- A text that does not begin with a number is malformed. Otherwise it begins with a whole number, which is reported if
it is too long, or with a decimal one. -/
theorem readNumber_cases (source : List Char) :
    readNumber source = .error .malformed ∨
    (∃ negative digits rest, source = minus negative ++ (digits ++ rest) ∧ IsWhole digits ∧ IsShort digits.length ∧
      readNumber source = .ok (.int (signed negative (Number.ofDigits digits)), rest)) ∨
    (∃ negative digits rest, source = minus negative ++ (digits ++ rest) ∧ IsWhole digits ∧ ¬ IsShort digits.length ∧
      NumberEnds rest ∧ readNumber source = .error (.numeralTooLong digits.length)) ∨
    ∃ negative whole fraction exponent middle after rest, source = minus negative ++ (whole ++ middle) ∧
      IsWhole whole ∧ SpellsFraction fraction middle after ∧ SpellsExponent exponent after rest ∧
      (fraction ≠ [] ∨ exponent ≠ none) ∧ readNumber source = .ok (decimal negative whole fraction exponent, rest) := by
  have hsource := eq_minus_append source
  obtain ⟨negative, unsigned, hminus⟩ : ∃ negative unsigned, readMinus source = (negative, unsigned) := ⟨_, _, rfl⟩
  rw [hminus] at hsource
  cases hwhole : readWhole? unsigned with
  | none => exact .inl (by simp only [readNumber, hminus, hwhole])
  | some parts =>
    obtain ⟨whole, middle⟩ := parts
    obtain ⟨hiswhole, hunsigned, hstops⟩ := isWhole_of_readWhole? hwhole
    dsimp only at hsource
    rw [hunsigned] at hsource
    obtain ⟨fraction, after, hfraction⟩ : ∃ fraction after, readFraction middle = (fraction, after) := ⟨_, _, rfl⟩
    obtain ⟨exponent, rest, hexponent⟩ : ∃ exponent rest, readExponent after = (exponent, rest) := ⟨_, _, rfl⟩
    have hspells := spells_of_readFraction hfraction
    have hspells' := spells_of_readExponent hexponent
    have hread := readNumber_of_parts hminus hwhole hfraction hexponent
    by_cases hparts : fraction = [] ∧ exponent = none
    · rw [if_pos hparts] at hread
      obtain ⟨rfl, rfl⟩ := hparts
      obtain rfl := hspells.eq_of_nil
      obtain rfl := hspells'.eq_of_none
      by_cases hlong : Number.digitLimit < whole.length
      · rw [if_pos hlong] at hread
        have hzero : whole ≠ ['0'] := by
          rintro rfl
          exact absurd hlong (by decide)
        exact .inr (.inr (.inl ⟨negative, whole, middle, hsource, hiswhole, Nat.not_le.mpr hlong,
          numberEnds_of_read (hstops hzero) hfraction hexponent, hread⟩))
      · rw [if_neg hlong] at hread
        exact .inr (.inl ⟨negative, whole, middle, hsource, hiswhole, Nat.not_lt.mp hlong, hread⟩)
    · rw [if_neg hparts] at hread
      exact .inr (.inr (.inr ⟨negative, whole, fraction, exponent, middle, after, rest, hsource, hiswhole, hspells,
        hspells', Classical.not_and_iff_not_or_not.mp hparts, hread⟩))

/-- A whole number is read where it ends, unless it is too long. -/
theorem readNumber_whole (negative : Bool) {digits : List Char} (hwhole : IsWhole digits) (hends : NumberEnds rest) :
    readNumber (minus negative ++ (digits ++ rest)) =
      if Number.digitLimit < digits.length then .error (.numeralTooLong digits.length)
      else .ok (.int (signed negative (Number.ofDigits digits)), rest) :=
  readNumber_of_parts (readMinus_append negative hwhole) (hwhole.read hends.stops) hends.readFraction_eq
    hends.readExponent_eq

/-- A decimal number is read up to where it ends. -/
theorem readNumber_decimal (negative : Bool) {whole fraction middle after : List Char} {exponent : Option Int}
    (hwhole : IsWhole whole) (hfraction : SpellsFraction fraction middle after)
    (hexponent : SpellsExponent exponent after rest) (hsome : fraction ≠ [] ∨ exponent ≠ none)
    (hstops : Text.Stops continuesNumber rest) :
    readNumber (minus negative ++ (whole ++ middle)) = .ok (decimal negative whole fraction exponent, rest) := by
  have hafter := hexponent.stops hstops
  have hmiddle : Text.Stops Char.isDigit middle := by
    cases hfraction with
    | absent => exact fun c hc => (Bool.or_eq_false_iff.mp (hafter c hc)).1
    | point => exact Text.stops_cons.mpr rfl
  have hread := readNumber_of_parts (readMinus_append negative hwhole) (hwhole.read hmiddle) (hfraction.read hafter)
    (hexponent.read hstops)
  rwa [if_neg (Classical.not_and_iff_not_or_not.mpr hsome)] at hread

/-! ## Words -/

/-- What follows a word that a text begins with is the rest of the text. -/
theorem eq_append_of_after? {word : List Char} (h : after? word source = some rest) : source = word ++ rest := by
  induction word generalizing source with
  | nil =>
    cases h
    rfl
  | cons c word ih =>
    cases source with
    | nil => cases h
    | cons d more =>
      rw [after?] at h
      split at h
      case isTrue hsame => rw [hsame, ih h, List.cons_append]
      case isFalse => cases h

/-- What begins as a number is read as a number. -/
theorem readAtom_number (negative : Bool) {whole : List Char} (h : IsWhole whole) (rest : List Char) :
    readAtom (minus negative ++ (whole ++ rest)) = readNumber (minus negative ++ (whole ++ rest)) := by
  obtain ⟨first, more, rfl, hfirst⟩ := exists_isDigit_cons_of_ne_nil h.ne_nil h.isDigit
  cases negative with
  | false => exact readAtom_eq_readNumber hfirst (.inl rfl)
  | true => exact readAtom_eq_readNumber hfirst (.inr rfl)

/-- A number begins neither with a blank nor with a mark of what is no number. -/
theorem exists_number_cons (negative : Bool) {whole : List Char} (h : IsWhole whole) (rest : List Char) :
    ∃ c more, minus negative ++ (whole ++ rest) = c :: more ∧ isSpace c = false ∧
      c ∉ ['"', '[', ']', '\x7b', '\x7d'] := by
  obtain ⟨first, more, rfl, hfirst⟩ := exists_isDigit_cons_of_ne_nil h.ne_nil h.isDigit
  cases negative with
  | false => exact ⟨first, more ++ rest, rfl, not_mark_of_isDigit hfirst⟩
  | true => exact ⟨'-', first :: more ++ rest, rfl, rfl, by decide⟩

/-- A word or a number that is read is spelled. -/
theorem spells_of_readAtom {d : Json} (h : readAtom source = .ok (d, rest)) : Spells IsShort (.item d) source rest := by
  unfold readAtom at h
  split at h
  case h_1 found hfound =>
    cases h
    obtain ⟨⟨word, item⟩, hword, hafter⟩ := List.exists_of_findSome?_eq_some hfound
    obtain ⟨more, hmore, hpair⟩ := Option.map_eq_some_iff.mp hafter
    cases hpair
    rw [eq_append_of_after? hmore]
    exact .word hword
  case h_2 =>
    rcases readNumber_cases source with hread | ⟨negative, digits, more, rfl, hwhole, hshort, hread⟩ |
      ⟨negative, digits, more, rfl, hwhole, hlong, hends, hread⟩ |
      ⟨negative, whole, fraction, exponent, middle, after, more, rfl, hwhole, hfraction, hexponent, hsome, hread⟩
    · cases hread.symm.trans h
    · cases hread.symm.trans h
      exact .whole hwhole hshort
    · cases hread.symm.trans h
    · cases hread.symm.trans h
      exact .decimal hwhole hfraction hexponent hsome

/-- Where a numeral that is too long is reported, it begins. -/
theorem runsInto_of_readAtom {n : Nat} (h : readAtom source = .error (.numeralTooLong n)) :
    RunsInto n .item source := by
  unfold readAtom at h
  split at h
  case h_1 => cases h
  case h_2 =>
    rcases readNumber_cases source with hread | ⟨negative, digits, more, rfl, hwhole, hshort, hread⟩ |
      ⟨negative, digits, more, rfl, hwhole, hlong, hends, hread⟩ |
      ⟨negative, whole, fraction, exponent, middle, after, more, rfl, hwhole, hfraction, hexponent, hsome, hread⟩
    · cases hread.symm.trans h
    · cases hread.symm.trans h
    · cases hread.symm.trans h
      exact .numeral hwhole rfl hlong hends
    · cases hread.symm.trans h

end Emptiness.Json
