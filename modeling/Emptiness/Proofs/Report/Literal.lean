import Emptiness.Proofs.Json.Surroundings
import Emptiness.Proofs.Report.Words

/-!
# Which words stand for themselves

No document stands for the text that it is written in, since a text in quotes is written with more characters than it
has. So a word that is not raw stands for itself exactly if it is no document. Blanks around a word do not change
whether it is one, nor what it stands for if it is.
-/

namespace Emptiness

/-- Only a text stands for a text. -/
theorem Json.eq_text_of_toValue {d : Json} {s : Text} (h : d.toValue = .text s) : d = .text s := by
  cases d with
  | text t =>
    rw [toValue] at h
    rw [Value.text.inj h]
  | null | bool | int | float | array | object => simp only [toValue, Value.list, Value.dict, reduceCtorEq] at h

namespace Report

variable {word : String}

/-- A text in quotes is written with more characters than it has. -/
theorem length_lt_of_isDocument {s : Text} (h : Json.IsDocument (.text s) word.toList) : s.length < word.length := by
  have hlength := h.length_text
  rw [String.length_toList] at hlength
  omega

/-- No document stands for the text that it is written in. -/
theorem toValue_ne_text {d : Json} (h : Json.IsDocument d word.toList) : d.toValue ≠ .text word := by
  intro hvalue
  rw [Json.eq_text_of_toValue hvalue] at h
  have hlength := length_lt_of_isDocument h
  rw [Text.length_ofString] at hlength
  exact Nat.lt_irrefl _ hlength

/-- A word that has a value is itself this value exactly if it is no document. -/
theorem eq_text_iff_no_document {v : Value} (h : wordValue word false = .ok v) :
    v = .text word ↔ ∀ d, ¬ Json.IsDocument d word.toList := by
  have hlong : ∀ n, ¬ Json.ReachesLongNumeral n word.toList :=
    (exists_wordValue_iff.mp ⟨v, h⟩).resolve_left Bool.false_ne_true
  constructor
  · rintro rfl d hdocument
    exact toValue_ne_text hdocument (Except.ok.inj ((wordValue_of_document hdocument hlong).symm.trans h))
  · intro hnone
    exact Except.ok.inj (h.symm.trans (wordValue_of_no_document hnone hlong))

variable {front back : String}

/-- A word between blanks is a document exactly if it is one without them. -/
theorem isDocument_between (hfront : ∀ c ∈ front.toList, Json.isSpace c = true)
    (hback : ∀ c ∈ back.toList, Json.isSpace c = true) (d : Json) :
    Json.IsDocument d (front ++ word ++ back).toList ↔ Json.IsDocument d word.toList := by
  rw [String.toList_append, String.toList_append]
  exact Json.isDocument_append hfront hback

/-- A document between blanks stands for what it stands for without them, or has no value either way. -/
theorem wordValue_between {d : Json} (h : Json.IsDocument d word.toList)
    (hfront : ∀ c ∈ front.toList, Json.isSpace c = true) (hback : ∀ c ∈ back.toList, Json.isSpace c = true) :
    wordValue (front ++ word ++ back) false = wordValue word false := by
  cases hread : Json.read word with
  | ok document => simp only [wordValue, h.read_append hfront hback, hread, Bool.false_eq_true, if_false]
  | error fault =>
    cases fault with
    | numeralTooLong count =>
      simp only [wordValue, h.read_append hfront hback, hread, Bool.false_eq_true, if_false]
    | malformed =>
      -- This would make the word stand for itself, blanks and all, but a document is never malformed.
      have hlong (n : Nat) : ¬ Json.ReachesLongNumeral n word.toList := by
        intro hreaches
        cases hread.symm.trans (Json.read_eq_long_iff.mpr hreaches)
      cases hread.symm.trans (h.read hlong)

/-- A raw word stands for itself. Of the others that have a value, those that are no documents do so, and no others,
because a document never stands for its own text: a text in quotes is written with more characters than it has. Blanks
around a word do not make it a document, nor keep it from being one, and do not change what it stands for if it is
one. -/
theorem literal_iff_no_document (word : String) :
    wordValue word true = .ok (.text word) ∧
      (∀ v, wordValue word false = .ok v → (v = .text word ↔ ∀ d, ¬ Json.IsDocument d word.toList)) ∧
      (∀ d, Json.IsDocument d word.toList → d.toValue ≠ .text word) ∧
      (∀ s, Json.IsDocument (.text s) word.toList → s.length < word.length) ∧
      ∀ front back : String, (∀ c ∈ front.toList, Json.isSpace c = true) →
        (∀ c ∈ back.toList, Json.isSpace c = true) →
        (∀ d, Json.IsDocument d (front ++ word ++ back).toList ↔ Json.IsDocument d word.toList) ∧
        ((∃ d, Json.IsDocument d word.toList) → wordValue (front ++ word ++ back) false = wordValue word false) := by
  refine ⟨rfl, fun _ => eq_text_iff_no_document, fun _ => toValue_ne_text, fun _ => length_lt_of_isDocument,
    fun front back hfront hback => ⟨isDocument_between hfront hback, ?_⟩⟩
  rintro ⟨d, hdocument⟩
  exact wordValue_between hdocument hfront hback

/-- A quoted text with escapes, between blanks of all four kinds, is what it stands for without them: a text of three
characters. A digit before a blank that JSON does not know is no document, and so stands for itself. -/
theorem literal_iff_no_document_of_escapes :
    let quoted := "\"\\u0041\\ud83d\\ude00\\n\""
    let spaced := "1\u00a0"
    Json.IsDocument (.text "A😀\n") quoted.toList ∧ wordValue quoted false = .ok (.text "A😀\n") ∧
      Value.text "A😀\n" ≠ .text quoted ∧ ("A😀\n" : Text).length < quoted.length ∧
      (∀ c ∈ " \t".toList, Json.isSpace c = true) ∧ (∀ c ∈ "\r\n".toList, Json.isSpace c = true) ∧
      Json.IsDocument (.text "A😀\n") (" \t" ++ quoted ++ "\r\n").toList ∧
      wordValue (" \t" ++ quoted ++ "\r\n") false = wordValue quoted false ∧
      (∃ v, wordValue spaced false = .ok v ∧ v = .text spaced) ∧ ∀ d, ¬ Json.IsDocument d spaced.toList := by
  intro quoted spaced
  obtain ⟨-, -, hother, hlength, hbetween⟩ := literal_iff_no_document quoted
  obtain ⟨-, hspaced, -⟩ := literal_iff_no_document spaced
  have hfront : ∀ c ∈ " \t".toList, Json.isSpace c = true := List.all_eq_true.mp (by decide)
  have hback : ∀ c ∈ "\r\n".toList, Json.isSpace c = true := List.all_eq_true.mp (by decide)
  have hletters : quoted.toList =
      ['"', '\\', 'u', '0', '0', '4', '1', '\\', 'u', 'd', '8', '3', 'd', '\\', 'u', 'd', 'e', '0', '0',
        '\\', 'n', '"'] := by
    decide
  have htext : Json.joinUnits [0x41, 0xd83d, 0xde00, 10] = "A😀\n" := rfl
  have hquoted : Json.IsDocument (.text "A😀\n") quoted.toList := by
    rw [← htext, hletters]
    exact ⟨_, [], .refl _, .text (.hex rfl (.hex rfl (.hex rfl (.letter rfl .close)))), .refl _⟩
  have hshort : ∀ word ∈ [quoted, spaced], ∀ n, ¬ Json.ReachesLongNumeral n word.toList := by
    have hlengths : ∀ word ∈ [quoted, spaced], word.toList.length ≤ Number.digitLimit := by decide
    exact fun word hword => Json.not_reachesLongNumeral_of_isShort (hlengths word hword)
  have hspacedLetters : spaced.toList = ['1'] ++ ['\u00a0'] := by decide
  have hnone : ∀ d, ¬ Json.IsDocument d spaced.toList := by
    rw [hspacedLetters]
    exact Json.not_isDocument_of_last (by decide) (by decide) ['1']
  obtain ⟨v, hvalue⟩ := exists_wordValue_iff.mpr (.inr (hshort spaced (by decide)))
  obtain ⟨hdocument, hsame⟩ := hbetween " \t" "\r\n" hfront hback
  exact ⟨hquoted, wordValue_of_document hquoted (hshort quoted (by decide)), hother _ hquoted, hlength _ hquoted,
    hfront, hback, (hdocument _).mpr hquoted, hsame ⟨_, hquoted⟩, ⟨v, hvalue, (hspaced v hvalue).mpr hnone⟩, hnone⟩

end Report

end Emptiness
