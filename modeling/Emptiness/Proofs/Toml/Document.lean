import Emptiness.Proofs.Toml.Scalar
import Emptiness.Toml.Document

/-!
# What readers of TOML documents leave

Values that nest, statements and headers leave suffixes as scalars do. So whatever is read further on stands in the
whole document, and one whose reading ends at a numeral that is too long holds this numeral, whatever its ends of lines
are.
-/

namespace Emptiness.Toml

variable {source : List Char}

/-! ## Values that nest -/

/-- With this much fuel, the readers of values that nest leave suffixes. They call each other, so this is one property
of all four, and one induction on the fuel. -/
structure NestsWithin (fuel : Nat) : Prop where
  value : ∀ source, ReadsFrom Prod.snd source (readValue fuel source)
  items : ∀ source, ReadsFrom Prod.snd source (readItems fuel source)
  pairs : ∀ children source, ReadsFrom Prod.snd source (readPairs fuel children source)
  pair : ∀ source, ReadsFrom Prod.snd source (readPair fuel source)

namespace NestsWithin

variable {fuel : Nat}

/-- An array, an inline table or a plain value leaves a suffix. -/
theorem value_succ (h : NestsWithin fuel) (source : List Char) :
    ReadsFrom Prod.snd source (readValue (fuel + 1) source) := by
  rw [readValue.eq_def]
  dsimp only
  split
  · refine .of_drop 1 ((skipFiller_from false _).bind fun inside => ?_)
    exact (h.items inside).bind fun (items, tail) => List.suffix_refl tail
  case h_2 rest =>
    refine .of_drop 1 (.of_isSuffix ?_ (skipBlanks_isSuffix rest))
    split
    case h_1 tail htail =>
      rw [htail]
      exact List.suffix_cons _ tail
    case h_2 => exact (h.pairs [] _).bind fun (children, tail) => List.suffix_refl tail
  · exact readScalar_from source

/-- The items of an array leave a suffix. -/
theorem items_succ (h : NestsWithin fuel) (source : List Char) :
    ReadsFrom Prod.snd source (readItems (fuel + 1) source) := by
  rw [readItems.eq_def]
  dsimp only
  split
  case h_1 tail => exact List.suffix_cons _ tail
  case h_2 =>
    refine (h.value source).bind fun (item, rest) => ?_
    refine (skipFiller_from false rest).bind fun filled => ?_
    dsimp only
    split
    case h_1 tail => exact List.suffix_cons _ tail
    case h_2 more =>
      refine .of_drop 1 ((skipFiller_from false more).bind fun inside => ?_)
      exact (h.items inside).bind fun (items, tail) => List.suffix_refl tail
    case h_3 => exact trivial

/-- The pairs of an inline table leave a suffix. -/
theorem pairs_succ (h : NestsWithin fuel) (children : Children) (source : List Char) :
    ReadsFrom Prod.snd source (readPairs (fuel + 1) children source) := by
  rw [readPairs.eq_def]
  dsimp only
  refine (h.pair source).bind fun ((parts, value), rest) => ?_
  refine readsFrom_bind_step (required_ne_long _) fun children => .of_isSuffix ?_ (skipBlanks_isSuffix rest)
  dsimp only
  split
  case h_1 tail htail =>
    rw [htail]
    exact List.suffix_cons _ tail
  case h_2 more hmore =>
    rw [hmore]
    exact .of_drop 1 (.of_isSuffix (h.pairs children _) (skipBlanks_isSuffix more))
  case h_3 => exact trivial

/-- A key with its value leaves a suffix. -/
theorem pair_succ (h : NestsWithin fuel) (source : List Char) :
    ReadsFrom Prod.snd source (readPair (fuel + 1) source) := by
  rw [readPair.eq_def]
  dsimp only
  refine (readKey_from (source.length + 1) source).bind fun (parts, rest) => ?_
  dsimp only
  split
  case h_1 more =>
    refine .of_drop 1 (.of_isSuffix ?_ (skipBlanks_isSuffix more))
    exact (h.value (skipBlanks more)).bind fun (value, tail) => List.suffix_refl tail
  case h_2 => exact trivial

end NestsWithin

/-- The readers of values that nest leave suffixes. -/
theorem nestsWithin (fuel : Nat) : NestsWithin fuel := by
  induction fuel with
  | zero => exact ⟨fun _ => trivial, fun _ => trivial, fun _ _ => trivial, fun _ => trivial⟩
  | succ fuel ih => exact ⟨ih.value_succ, ih.items_succ, ih.pairs_succ, ih.pair_succ⟩

/-! ## Statements -/

/-- A statement leaves a suffix. -/
theorem readStatement_from (fuel : Nat) (draft : Draft) (source : List Char) :
    ReadsFrom Prod.snd source (readStatement fuel draft source) := by
  unfold readStatement
  split
  case h_1 rest =>
    refine .of_drop 2 (.of_isSuffix ?_ (skipBlanks_isSuffix rest))
    refine (readKey_from fuel (skipBlanks rest)).bind fun (parts, rest) => ?_
    refine readsFrom_bind_step (required_bind_ne_long _ _) fun draft => ?_
    dsimp only
    split
    case h_1 tail => exact (skipBlanks_isSuffix tail).trans (List.drop_suffix 2 (']' :: ']' :: tail))
    case h_2 => exact trivial
  case h_2 rest _ =>
    refine .of_drop 1 (.of_isSuffix ?_ (skipBlanks_isSuffix rest))
    refine (readKey_from fuel (skipBlanks rest)).bind fun (parts, rest) => ?_
    refine readsFrom_bind_step (required_bind_ne_long _ _) fun draft => ?_
    dsimp only
    split
    case h_1 tail => exact (skipBlanks_isSuffix tail).trans (List.suffix_cons ']' tail)
    case h_2 => exact trivial
  case h_3 c rest _ _ =>
    split
    · refine ((nestsWithin fuel).pair (c :: rest)).bind fun ((parts, value), rest) => ?_
      exact readsFrom_bind_step (required_bind_ne_long _ _) fun draft => skipBlanks_isSuffix rest
    · split
      · exact List.suffix_refl _
      · exact trivial
  case h_4 => exact List.suffix_refl []

/-- Statements up to the end of the document fail for no numeral that is not in the document. -/
theorem readStatements_from (depth fuel : Nat) (draft : Draft) (source : List Char) :
    ReadsFrom (fun _ => []) source (readStatements depth fuel draft source) := by
  induction fuel generalizing draft source with
  | zero => exact trivial
  | succ fuel ih =>
    rw [readStatements]
    refine .of_isSuffix ?_ (skipBlanks_isSuffix source)
    refine (readStatement_from depth draft (skipBlanks source)).bind fun (draft, rest) => ?_
    refine (skipComment_from rest).bind fun rest => ?_
    dsimp only [id]
    split
    · exact List.nil_suffix
    case h_2 more => exact .of_drop 1 (ih draft more)
    case h_3 => exact trivial

/-! ## Ends of lines -/

/-- What begins a text with its ends of lines normalized, and holds no end of a line, begins the text. -/
theorem isPrefix_of_normalizeLineEnds {part : List Char} (hpart : '\n' ∉ part)
    (h : part <+: normalizeLineEnds source) : part <+: source := by
  fun_induction normalizeLineEnds source generalizing part with
  | case1 rest ih =>
    rcases List.prefix_cons_iff.mp h with rfl | ⟨more, rfl, -⟩
    · exact List.nil_prefix
    · exact absurd List.mem_cons_self hpart
  | case2 c rest _ ih =>
    rcases List.prefix_cons_iff.mp h with rfl | ⟨more, rfl, hmore⟩
    · exact List.nil_prefix
    · exact List.cons_prefix_cons.mpr ⟨rfl, ih (fun hmem => hpart (List.mem_cons_of_mem c hmem)) hmore⟩
  | case3 => exact h

/-- What stands in a text with its ends of lines normalized, and holds no end of a line, stands in the text. -/
theorem isInfix_of_normalizeLineEnds {part : List Char} (hpart : '\n' ∉ part)
    (h : part <:+: normalizeLineEnds source) : part <:+: source := by
  fun_induction normalizeLineEnds source with
  | case1 rest ih =>
    rcases List.infix_cons_iff.mp h with hprefix | hinfix
    · have hsource : part <+: '\r' :: '\n' :: rest := by
        apply isPrefix_of_normalizeLineEnds hpart
        rw [normalizeLineEnds]
        exact hprefix
      exact hsource.isInfix
    · exact (ih hinfix).trans (List.drop_suffix 2 ('\r' :: '\n' :: rest)).isInfix
  | case2 c rest hend ih =>
    rcases List.infix_cons_iff.mp h with hprefix | hinfix
    · have hsource : part <+: c :: rest := by
        apply isPrefix_of_normalizeLineEnds hpart
        rw [normalizeLineEnds.eq_2 c rest hend]
        exact hprefix
      exact hsource.isInfix
    · exact (ih hinfix).trans (List.suffix_cons c rest).isInfix
  | case3 => exact h

/-- A document whose reading ends at a numeral that is too long holds the numeral. -/
theorem hasLongNumeral_of_read {n : Nat} (h : read source = .error (.numeralTooLong n)) : HasLongNumeral n source := by
  have hfrom : ReadsFrom (fun _ => []) (normalizeLineEnds source) (read source) :=
    ReadsFrom.bind (readStatements_from _ _ .empty (normalizeLineEnds source)) fun _ => List.nil_suffix
  -- the numeral stands in the normalized text, and spans no end of a line
  rw [h] at hfrom
  obtain ⟨numeral, hnumeral, hdigits, hcount⟩ := hfrom
  have hend : '\n' ∉ numeral := by
    intro hmem
    rcases hdigits '\n' hmem with hdigit | hmark
    · cases hdigit
    · cases hmark
  exact ⟨numeral, isInfix_of_normalizeLineEnds hend hnumeral, hdigits, hcount⟩

/-! ## A number that is too long -/

/-- A text in which no line ends in a carriage return has its ends of lines normalized. -/
theorem normalizeLineEnds_of_no_return (h : '\r' ∉ source) : normalizeLineEnds source = source := by
  fun_induction normalizeLineEnds source with
  | case1 rest => exact absurd List.mem_cons_self h
  | case2 c rest _ ih => rw [ih fun hmem => h (List.mem_cons_of_mem c hmem)]
  | case3 => rfl

/-- A run of ones is a decimal number, and too long if there are enough of them. -/
theorem readDecimal?_ones {n : Nat} (h : Number.digitLimit ≤ n) :
    readDecimal? ('1' :: List.replicate n '1') = some (.error (.numeralTooLong (n + 1))) := by
  have hdigits : readDigits Char.isDigit (List.replicate n '1') = (List.replicate n '1', []) := by
    apply readDigits_of_digits
    intro c hc
    rw [List.eq_of_mem_replicate hc]
    rfl
  have hwhole : readWhole? ('1' :: List.replicate n '1') = some ('1' :: List.replicate n '1', []) := by
    change some ('1' :: (readDigits Char.isDigit (List.replicate n '1')).1, (readDigits _ _).2) = _
    rw [hdigits]
  have hsign : Number.splitSign ('1' :: List.replicate n '1') = (false, '1' :: List.replicate n '1') := rfl
  have hfraction : readFraction [] = ([], []) := rfl
  have hexponent : readExponent [] = (none, []) := rfl
  have hlength : ('1' :: List.replicate n '1').length = n + 1 := by rw [List.length_cons, List.length_replicate]
  rw [readDecimal?, hsign]
  simp only [hwhole, Option.map_some, hfraction, hexponent, hlength, if_pos (Nat.lt_succ_of_le h)]
  rfl

/-- Ones are neither a date nor a time, nor a number in another notation. -/
theorem readScalar_ones {reading : Except ReadFault (Value × List Char)} {rest : List Char}
    (h : readDecimal? ('1' :: '1' :: '1' :: '1' :: '1' :: rest) = some reading) :
    readScalar ('1' :: '1' :: '1' :: '1' :: '1' :: rest) = reading := by
  have hquoted : readQuoted? ('1' :: '1' :: '1' :: '1' :: '1' :: rest) = none := rfl
  have hbool : readBool? ('1' :: '1' :: '1' :: '1' :: '1' :: rest) = none := rfl
  have hmoment : readMoment? ('1' :: '1' :: '1' :: '1' :: '1' :: rest) = none := rfl
  have hbased : readBased? ('1' :: '1' :: '1' :: '1' :: '1' :: rest) = none := rfl
  rw [readScalar, hquoted, hbool, hmoment, hbased, h]

/-- A document fails with the value of its first key. -/
theorem read_of_first_value {n : Nat} {rest : List Char} (hreturn : '\r' ∉ rest)
    (h : readScalar ('1' :: rest) = .error (.numeralTooLong n)) :
    read ('n' :: '=' :: '1' :: rest) = .error (.numeralTooLong n) := by
  have hsource : normalizeLineEnds ('n' :: '=' :: '1' :: rest) = 'n' :: '=' :: '1' :: rest := by
    apply normalizeLineEnds_of_no_return
    simpa using hreturn
  have hpair (depth : Nat) : readPair (depth + 2) ('n' :: '=' :: '1' :: rest) =
      readScalar ('1' :: rest) >>= fun found => .ok ((["n"], found.1), found.2) := rfl
  have hstatement (depth : Nat) :
      readStatement (depth + 2) .empty ('n' :: '=' :: '1' :: rest) = .error (.numeralTooLong n) := by
    change readPair (depth + 2) ('n' :: '=' :: '1' :: rest) >>= _ = _
    rw [hpair, h]
    rfl
  have hstatements (depth fuel : Nat) :
      readStatements (depth + 2) (fuel + 1) .empty ('n' :: '=' :: '1' :: rest) = .error (.numeralTooLong n) := by
    change readStatement (depth + 2) .empty ('n' :: '=' :: '1' :: rest) >>= _ = _
    rw [hstatement]
    rfl
  rw [read, hsource]
  change readStatements (4 * ('=' :: '1' :: rest).length + 6 + 2) (_ + 1) .empty _ >>= _ = _
  rw [hstatements]
  rfl

/-- A document with a number of too many ones fails for this number. -/
theorem read_ones {n : Nat} (h : Number.digitLimit ≤ n) :
    read ('n' :: '=' :: '1' :: List.replicate n '1') = .error (.numeralTooLong (n + 1)) := by
  have hreturn : '\r' ∉ List.replicate n '1' := by
    intro hmem
    cases List.eq_of_mem_replicate hmem
  have hdecimal := readDecimal?_ones h
  obtain ⟨more, rfl⟩ : ∃ more, n = more + 4 := ⟨n - 4, by rw [Number.digitLimit] at h; omega⟩
  exact read_of_first_value hreturn (readScalar_ones hdecimal)

end Emptiness.Toml
