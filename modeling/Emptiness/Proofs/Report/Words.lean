import Emptiness.Proofs.Json.Recognition
import Emptiness.Proofs.Report.Independence

/-!
# Which words stand for a value

A raw word always stands for itself, and any other for the document that it is, or for itself if it is none. There is one
exception to it: a word that runs into a whole numeral that is too long stands for nothing, whether it is a document or
not. Such a word ends a check of words with its fault, unless another one before it does; nothing else about the words
can end a check in this way as long as all templates are strings.
-/

namespace Emptiness

/-- Any number of ones is a whole number. -/
theorem Json.isWhole_ones (n : Nat) : Json.IsWhole (List.replicate (n + 1) '1') where
  ne_nil := List.replicate_succ_ne_nil
  isDigit c hc := by
    rw [List.eq_of_mem_replicate hc]
    decide
  zero h := by
    cases h

/-- A word that is not raw has no value exactly if it runs into a numeral that is too long. -/
theorem wordValue_eq_error_iff {word : String} {fault : Fault} :
    wordValue word false = .error fault ↔
      ∃ n, Json.ReachesLongNumeral n word.toList ∧ fault = .numeralTooLong (some n) := by
  simp only [← Json.read_eq_long_iff, wordValue, Bool.false_eq_true, if_false]
  split
  case h_1 d hread => simp [hread]
  case h_2 hread => simp [hread]
  case h_3 n hread => simp [hread, eq_comm]

/-- A document stands for its value unless the word runs into a numeral that is too long. -/
theorem wordValue_of_document {word : String} {d : Json} (h : Json.IsDocument d word.toList)
    (hlong : ∀ n, ¬ Json.ReachesLongNumeral n word.toList) : wordValue word false = .ok d.toValue := by
  simp only [wordValue, h.read hlong, Bool.false_eq_true, if_false]

/-- A word that is no document stands for itself unless it runs into a numeral that is too long. -/
theorem wordValue_of_no_document {word : String} (h : ∀ d, ¬ Json.IsDocument d word.toList)
    (hlong : ∀ n, ¬ Json.ReachesLongNumeral n word.toList) : wordValue word false = .ok (.text word) := by
  simp only [wordValue, Bool.false_eq_true, if_false]
  split
  case h_1 d hread => exact absurd (Json.isDocument_of_read hread) (h d)
  case h_2 => rfl
  case h_3 n hread => exact absurd (Json.read_eq_long_iff.mp hread) (hlong n)

/-- A word has a value if it is raw, or if it does not run into a numeral that is too long. -/
theorem exists_wordValue_iff {word : String} {raw : Bool} :
    (∃ v, wordValue word raw = .ok v) ↔ raw = true ∨ ∀ n, ¬ Json.ReachesLongNumeral n word.toList := by
  cases raw with
  | true => exact iff_of_true ⟨_, rfl⟩ (.inl rfl)
  | false =>
    constructor
    · rintro ⟨v, hvalue⟩
      refine .inr fun n hlong => ?_
      cases hvalue.symm.trans (wordValue_eq_error_iff.mpr ⟨n, hlong, rfl⟩)
    · intro h
      cases hvalue : wordValue word false with
      | ok v => exact ⟨v, rfl⟩
      | error fault =>
        obtain ⟨n, hlong, -⟩ := wordValue_eq_error_iff.mp hvalue
        exact absurd hlong (h.resolve_left Bool.false_ne_true n)

namespace Report

variable {config : Configuration} {raw : Bool} {word : String} {fault : Fault}

/-- Where all templates are strings, a word has no row exactly if it has no value. -/
theorem rowOf_eq_error_iff (htexts : ∀ override ∈ config.overrides, ∃ s : String, override.2 = .text s) :
    rowOf config raw word = .error fault ↔ wordValue word raw = .error fault := by
  cases hvalue : wordValue word raw with
  | ok v =>
    obtain ⟨checked, rfl, hchecked⟩ := exists_checked htexts hvalue
    rw [hchecked.row_eq]
    exact iff_of_false nofun nofun
  | error cause => simp [rowOf, checkWord, hvalue, bind, Except.bind, Except.map]

/-- Where all templates are strings, a word has a row exactly if it has a value. -/
theorem exists_rowOf_iff (htexts : ∀ override ∈ config.overrides, ∃ s : String, override.2 = .text s) :
    (∃ row, rowOf config raw word = .ok row) ↔ ∃ v, wordValue word raw = .ok v := by
  constructor
  · rintro ⟨row, hrow⟩
    obtain ⟨_, hchecked, -⟩ := map_eq_ok hrow
    obtain ⟨v, hvalue, -⟩ := bind_eq_ok hchecked
    exact ⟨v, hvalue⟩
  · rintro ⟨v, hvalue⟩
    obtain ⟨checked, rfl, hchecked⟩ := exists_checked htexts hvalue
    exact ⟨checked.row, hchecked.row_eq⟩

variable {request : CheckRequest} {entry : FileEntry} {validator : Validator}

/-- A check whose words all have values ends with an outcome. -/
theorem exists_runCheck
    (hbuild : buildValidator request.names (request.config.map fun path => (path, entry)) = .ok validator)
    (htexts : ∀ override ∈ validator.config.overrides, ∃ s : String, override.2 = .text s)
    (hwords : ∀ word ∈ request.words, ∃ v, wordValue word request.raw = .ok v) :
    ∃ outcome, runCheck request entry = .ok outcome := by
  obtain ⟨checked, hchecked, hall⟩ := exists_all_checked htexts hwords
  have hreports := Checked.reports hbuild hall
  obtain ⟨words, names, config, json, raw⟩ := request
  cases hchecked
  cases json with
  | true => exact ⟨_, hreports.document⟩
  | false =>
    obtain ⟨lines, htable⟩ := hreports.table
    exact ⟨_, htable⟩

/-- A check ends with a fault exactly if one of its words has no value, and then with the fault of the first. -/
theorem runCheck_eq_error_iff
    (hbuild : buildValidator request.names (request.config.map fun path => (path, entry)) = .ok validator)
    (htexts : ∀ override ∈ validator.config.overrides, ∃ s : String, override.2 = .text s) :
    runCheck request entry = .error fault ↔
      ∃ before word after, request.words = before ++ word :: after ∧
        (∀ other ∈ before, ∃ v, wordValue other request.raw = .ok v) ∧ wordValue word request.raw = .error fault := by
  have hsplit : request.words.mapM (rowOf validator.config request.raw) = .error fault ↔ _ := mapM_eq_error_iff
  simp only [exists_rowOf_iff htexts, rowOf_eq_error_iff htexts, ← checkWords_eq_mapM] at hsplit
  rw [← hsplit]
  cases hrows : checkWords validator request.raw request.words with
  | error cause => simp only [runCheck, hbuild, checkBy, hrows, bind, Except.bind, Except.error.injEq]
  | ok rows =>
    -- With a row for each word nothing is left that can fail.
    rw [checkWords_eq_mapM] at hrows
    have hwords := forall_mem_of_mapM_eq_ok hrows
    simp only [exists_rowOf_iff htexts] at hwords
    obtain ⟨outcome, houtcome⟩ := exists_runCheck hbuild htexts hwords
    simp only [houtcome, reduceCtorEq]

/-- Every word has a value, a raw one itself and any other the document that it is, or itself if it is none, unless it runs
into a numeral that is too long, for which that many digits have to stand in it in a row. Only such a word ends a check
with a fault, with its own one and if it is the first of them. -/
theorem words_answered_unless_long (word : String) (request : CheckRequest) (entry : FileEntry) :
    wordValue word true = .ok (.text word) ∧
      (∀ fault, wordValue word false = .error fault ↔
        ∃ n, Json.ReachesLongNumeral n word.toList ∧ fault = .numeralTooLong (some n)) ∧
      ((∀ n, ¬ Json.ReachesLongNumeral n word.toList) →
        (∀ d, Json.IsDocument d word.toList → wordValue word false = .ok d.toValue) ∧
        ((∀ d, ¬ Json.IsDocument d word.toList) → wordValue word false = .ok (.text word))) ∧
      (∀ n, Json.ReachesLongNumeral n word.toList → Json.HasLongRun n word.toList) ∧
      (∀ validator : Validator,
        buildValidator request.names (request.config.map fun path => (path, entry)) = .ok validator →
        (∀ override ∈ validator.config.overrides, ∃ s : String, override.2 = .text s) →
        ∀ fault, runCheck request entry = .error fault ↔
          request.raw = false ∧ ∃ before long after n, request.words = before ++ long :: after ∧
            (∀ other ∈ before, ∀ m, ¬ Json.ReachesLongNumeral m other.toList) ∧
            Json.ReachesLongNumeral n long.toList ∧ fault = .numeralTooLong (some n)) := by
  refine ⟨rfl, fun _ => wordValue_eq_error_iff, fun hlong => ⟨fun d hdocument => ?_, fun hnone => ?_⟩,
    fun _ hlong => hlong.hasLongRun, fun validator hbuild htexts fault => ?_⟩
  · exact wordValue_of_document hdocument hlong
  · exact wordValue_of_no_document hnone hlong
  · rw [runCheck_eq_error_iff hbuild htexts]
    cases request.raw with
    | true => exact iff_of_false (fun ⟨_, _, _, _, _, hfault⟩ => nomatch hfault) (fun h => nomatch h.1)
    | false =>
      simp only [exists_wordValue_iff, wordValue_eq_error_iff, Bool.false_eq_true, false_or, true_and]
      constructor
      · rintro ⟨before, long, after, hwords, hbefore, n, hlong⟩
        exact ⟨before, long, after, n, hwords, hbefore, hlong⟩
      · rintro ⟨before, long, after, n, hwords, hbefore, hlong⟩
        exact ⟨before, long, after, hwords, hbefore, n, hlong⟩

/-- A list and a plain word have values, but an array that is not even closed ends the check of the three of them, after a
negative numeral of 4301 digits in it. -/
theorem words_answered_unless_long_of_open_array :
    let long := String.ofList ("[true, -".toList ++ List.replicate 4301 '1')
    let request : CheckRequest := ⟨["[0]", "x", long, "[]"], ["zero"], none, false, false⟩
    let validator := Validator.ofConfiguration ⟨16, [], false, []⟩
    buildValidator request.names none = .ok validator ∧
      (∀ override ∈ validator.config.overrides, ∃ s : String, override.2 = .text s) ∧
      (∀ word ∈ ["[0]", "x"], ∀ n, ¬ Json.ReachesLongNumeral n word.toList) ∧
      Json.IsDocument (.array [.int 0]) "[0]".toList ∧ wordValue "[0]" false = .ok (.list [.int 0]) ∧
      (∀ d, ¬ Json.IsDocument d "x".toList) ∧ wordValue "x" false = .ok (.text "x") ∧
      Json.ReachesLongNumeral 4301 long.toList ∧ runCheck request .missing = .error (.numeralTooLong (some 4301)) := by
  intro long request validator
  obtain ⟨-, -, hlistValue, -, hcheck⟩ := words_answered_unless_long "[0]" request .missing
  obtain ⟨-, -, hplainValue, -, -⟩ := words_answered_unless_long "x" request .missing
  have hbuild : buildValidator request.names none = .ok validator := rfl
  have htexts : ∀ override ∈ validator.config.overrides, ∃ s : String, override.2 = .text s := nofun
  have hshort : ∀ word ∈ ["[0]", "x"], ∀ n, ¬ Json.ReachesLongNumeral n word.toList := by
    have hlengths : ∀ word ∈ ["[0]", "x"], word.toList.length ≤ Number.digitLimit := by decide
    exact fun word hword => Json.not_reachesLongNumeral_of_isShort (hlengths word hword)
  have hlist : Json.IsDocument (.array [.int 0]) "[0]".toList := by
    have hitem : Json.Spells (fun _ => True) (.item (.int 0)) ['0', ']'] [']'] :=
      @Json.Spells.whole _ false ['0'] [']'] ⟨nofun, List.forall_mem_singleton.mpr rfl, fun _ => rfl⟩ trivial
    exact ⟨_, [], .refl _, .array (.refl _) (.lastItem hitem (.refl _)), .refl _⟩
  have hplain : ∀ d, ¬ Json.IsDocument d "x".toList := Json.not_isDocument_of_last (by decide) (by decide) []
  have hlong : Json.ReachesLongNumeral 4301 long.toList := by
    have hones : Json.RunsInto 4301 .item ('-' :: (List.replicate 4301 '1' ++ [])) :=
      @Json.RunsInto.numeral _ true _ _ (Json.isWhole_ones 4300) List.length_replicate (by decide)
        (Json.numberEnds_of_stops nofun)
    have htrue (rest : List Char) : Json.Spells Json.IsShort (.item (.bool true)) ("true".toList ++ rest) rest :=
      .word (by simp [Json.words])
    have hblank (rest : List Char) : Json.Margin (' ' :: rest) rest :=
      ⟨[' '], List.forall_mem_singleton.mpr rfl, rfl⟩
    have harray := Json.RunsInto.array (.refl _) (.laterItem (htrue _) (.refl _) (hblank _) (.firstItem hones))
    rw [List.append_nil] at harray
    refine ⟨_, .refl _, ?_⟩
    rw [String.toList_ofList]
    exact harray
  have hrun := (hcheck validator hbuild htexts _).mpr ⟨rfl, ["[0]", "x"], long, ["[]"], 4301, rfl, hshort, hlong, rfl⟩
  exact ⟨hbuild, htexts, hshort, hlist, (hlistValue (hshort "[0]" (by decide))).1 _ hlist, hplain,
    (hplainValue (hshort "x" (by decide))).2 hplain, hlong, hrun⟩

/-- A word of 4301 digits and a letter is no document, and yet it does not stand for itself, nor for anything else. -/
theorem digits_and_letter_unanswered :
    let word := String.ofList (List.replicate 4301 '1' ++ ['x'])
    (∀ d, ¬ Json.IsDocument d word.toList) ∧ ∀ v, wordValue word false ≠ .ok v := by
  intro word
  have htext : word.toList = List.replicate 4301 '1' ++ ['x'] := String.toList_ofList
  constructor
  · rw [htext]
    exact Json.not_isDocument_of_last (by decide) (by decide) _
  · intro v hvalue
    have hends : Json.NumberEnds ['x'] := Json.numberEnds_of_stops (Text.stops_cons.mpr (by decide))
    have hlong : Json.ReachesLongNumeral 4301 word.toList := by
      rw [htext]
      exact ⟨_, .refl _, @Json.RunsInto.numeral _ false _ _ (Json.isWhole_ones 4300) List.length_replicate (by decide) hends⟩
    cases hvalue.symm.trans (wordValue_eq_error_iff.mpr ⟨4301, hlong, rfl⟩)

end Report

end Emptiness
