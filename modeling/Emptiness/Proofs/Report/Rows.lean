import Emptiness.Proofs.Json.Sound
import Emptiness.Proofs.Validator.Consistency
import Emptiness.Proofs.Validator.Message
import Emptiness.Proofs.Verdict.Decision
import Emptiness.Proofs.Verdict.Union
import Emptiness.Report.Check

/-!
# Rows of a report

One validator checks all words of a report, but a check owes nothing to the ones before it, so the row of a word is the
one that a new validator with the same configuration gives. Where all templates are strings every check is answered.
Then a row is known by the document that its word stands for and by the complaint about it, if there is one, and it can
be shown both as a document and as a line of a table: half a surrogate pair could not be printed there, but there is
none in a text that counts as empty, and so none in a message.
-/

namespace Emptiness.Report

variable {raw : Bool}

/-- The row of a word that is checked by a new validator. -/
def rowOf (config : Configuration) (raw : Bool) (word : String) : Except Fault Row :=
  (checkWord (.ofConfiguration config) raw word).map (·.2)

/-- Checking a word owes nothing to what was checked before. -/
theorem checkWord_eq (validator : Validator) (raw : Bool) (word : String) :
    checkWord validator raw word = checkWord (.ofConfiguration validator.config) raw word := by
  have hcheck (v : Value) : validator.check v = (Validator.ofConfiguration validator.config).check v := by
    rw [Validator.check, Validator.check, validator.config.check_eq validator.record .fresh]
    rfl
  simp only [checkWord, hcheck]

/-- Checking a word leaves the configuration as it is. -/
theorem checkWord_config {validator after : Validator} {word : String} {row : Row}
    (h : checkWord validator raw word = .ok (after, row)) : after.config = validator.config := by
  obtain ⟨v, -, h⟩ := bind_eq_ok h
  obtain ⟨isValid, -, h⟩ := bind_eq_ok h
  cases h
  rfl

/-- The rows of words are the rows of each of them. -/
theorem checkWords_eq_mapM (validator : Validator) (raw : Bool) (words : List String) :
    checkWords validator raw words = words.mapM (rowOf validator.config raw) := by
  induction words generalizing validator with
  | nil => rfl
  | cons word rest ih =>
    rw [checkWords, List.mapM_cons, rowOf, ← checkWord_eq]
    cases hcheck : checkWord validator raw word with
    | error fault => rfl
    | ok checked =>
      have hrest := ih checked.1
      rw [checkWord_config hcheck] at hrest
      simp only [Except.map, bind, Except.bind, hrest]

/-- The documents of rows are those of each of them. -/
theorem rowDocuments_eq_mapM (rows : List Row) : rowDocuments rows = rows.mapM Row.document := by
  induction rows with
  | nil => rfl
  | cons row rest ih => rw [rowDocuments, List.mapM_cons, ih]

/-- The cells of rows are those of each of them. -/
theorem rowCells_eq_mapM (rows : List Row) : rowCells rows = rows.mapM Row.cells := by
  induction rows with
  | nil => rfl
  | cons row rest ih => rw [rowCells, List.mapM_cons, ih]

/-- A string is printed as it is. -/
theorem encoded_ofString (s : String) : encoded s = .ok s := by
  rw [encoded, Text.string?_ofString]

/-- Lines of strings are printed as they are. -/
theorem mapM_encoded (lines : List (List String)) :
    ((lines.map (List.map Text.ofString)).mapM fun line => line.mapM encoded) = .ok lines := by
  have hline (line : List String) : (line.map Text.ofString).mapM encoded = .ok line := by
    rw [mapM_map_eq_ok fun cell _ => encoded_ofString cell, List.map_id']
  rw [mapM_map_eq_ok fun line _ => hline line, List.map_id']

/-- What is said about a word whose value is empty. -/
structure Complaint where
  rule : Rule
  reason : Reason
  message : String

/-- A word that was checked: the document that it stands for, and the complaint about it, if there is one. -/
structure Checked where
  word : String
  shown : Json
  sound : shown.Sound
  complaint? : Option Complaint

namespace Checked

/-- The row of a word that was checked. -/
def row (checked : Checked) : Row :=
  ⟨checked.word, checked.shown.toValue, checked.complaint?.isNone, checked.complaint?.map (·.rule),
    (checked.complaint?.map fun complaint => (complaint.reason, .text complaint.message)).toList⟩

/-- The row of a word that was checked, as the JSON report shows it. -/
def document (checked : Checked) : Json :=
  .object [
    ("input", .text checked.word),
    ("value", checked.shown),
    ("valid", .bool checked.complaint?.isNone),
    ("rule", (checked.complaint?.map fun complaint => .text complaint.rule.name).getD .null),
    ("messages", .object
      (checked.complaint?.map fun complaint => (complaint.reason.key, .text complaint.message)).toList)]

/-- A word was checked by a configuration: its value was judged, and a complaint names a rule of the configuration. -/
structure By (config : Configuration) (raw : Bool) (checked : Checked) : Prop where
  value_eq : wordValue checked.word raw = .ok checked.shown.toValue
  isEmpty_eq : isEmptyUnder checked.shown.toValue config.mask = .ok checked.complaint?.isSome
  rule_mem : ∀ complaint ∈ checked.complaint?, complaint.rule.name ∈ Mask.names config.mask
  row_eq : rowOf config raw checked.word = .ok checked.row

/-- The row of a word that was checked is shown as a document. -/
theorem row_document (checked : Checked) : checked.row.document = .ok checked.document := by
  have hvalue : Json.ofValue checked.row.value = .ok checked.shown := Json.ofValue_toValue checked.sound
  have hrule : checked.row.rule?.map (fun rule => Json.text rule.name) =
      checked.complaint?.map fun complaint => .text complaint.rule.name := Option.map_map _ _ _
  have hmessages : Json.ofValue checked.row.messages.toValue = .ok (.object
      (checked.complaint?.map fun complaint => (complaint.reason.key, .text complaint.message)).toList) := by
    rw [row]
    cases checked.complaint? <;> rfl
  rw [Row.document, hvalue, hmessages, hrule]
  rfl

/-- The rows of words that were checked are shown as documents. -/
theorem rowDocuments_map (checked : List Checked) : rowDocuments (checked.map row) = .ok (checked.map document) := by
  rw [rowDocuments_eq_mapM]
  exact mapM_map_eq_ok fun one _ => one.row_document

/-- The row of a word that was checked, as a line of the table. -/
def cells (checked : Checked) : List String :=
  [checked.word, checked.shown.toValue.typeName, if checked.complaint?.isNone then "not empty" else "empty",
    (checked.complaint?.map fun complaint => complaint.rule.name).getD "-",
    (checked.complaint?.map fun complaint => complaint.message).getD ""]

/-- The row of a word that was checked is shown as a line of the table, in strings. -/
theorem row_cells (checked : Checked) : checked.row.cells = .ok (checked.cells.map Text.ofString) := by
  obtain ⟨word, shown, sound, complaint?⟩ := checked
  cases complaint? with
  | none => rfl
  | some complaint =>
    have hmessages : messageTexts 0 (row ⟨word, shown, sound, some complaint⟩).messages =
        .ok [(complaint.message : Text)] := rfl
    have hjoined : List.intercalate (Text.ofString "; ") [(complaint.message : Text)] = complaint.message :=
      List.intercalate_singleton
    rw [Row.cells, hmessages]
    simp [row, cells, bind, Except.bind, pure, Except.pure, hjoined]

/-- The rows of words that were checked are shown as lines of the table, in strings. -/
theorem rowCells_map (checked : List Checked) :
    rowCells (checked.map row) = .ok ((checked.map cells).map (List.map Text.ofString)) := by
  rw [rowCells_eq_mapM, List.map_map]
  exact mapM_map_eq_ok fun one _ => one.row_cells

end Checked

/-- The row of a word that can be read is made of the answer and the record of a check of its value. -/
theorem rowOf_of_wordValue (config : Configuration) {word : String} {v : Value} (h : wordValue word raw = .ok v) :
    rowOf config raw word = (config.check .fresh v).2.map fun isValid =>
      ⟨word, v, isValid, (config.check .fresh v).1.verdict.rule?, (config.check .fresh v).1.messages⟩ := by
  simp only [rowOf, checkWord, h, bind, Except.bind, Validator.check, Validator.ofConfiguration]
  cases (config.check .fresh v).2 <;> rfl

/-- A value whose text is its literal is shown as a string. -/
theorem exists_shown_of_literal {v : Value} (h : v.written = v.literal.map Text.ofString) :
    ∃ s : String, Template.shown v = s := by
  unfold Template.shown
  split
  · exact ⟨"", rfl⟩
  · rw [h]
    cases v.literal with
    | ok s => exact ⟨s, rfl⟩
    | error fault => exact ⟨v.typeName, rfl⟩

/-- There is no half of a pair in a text that counts as empty. -/
theorem exists_string_of_judge {s : Text} {mask : Mask} {rule : Rule} {reason : Reason}
    (h : judge (.text s) mask = .ok (.empty rule reason)) : ∃ t : String, s = t := by
  rw [judge_text] at h
  have hempty := Except.ok.inj h
  unfold decideString at hempty
  split at hempty
  case isTrue hspace =>
    simp only [Bool.and_eq_true, List.all_eq_true] at hspace
    refine Text.exists_string_iff.mpr fun place hmem => ?_
    cases hspace.2.2 _ hmem
  case isFalse =>
    split at hempty
    case isTrue hzero => exact ⟨"0", beq_iff_eq.mp (Bool.and_eq_true_iff.mp hzero).2⟩
    case isFalse =>
      split at hempty
      case isTrue hstring => exact ⟨"", beq_iff_eq.mp (Bool.and_eq_true_iff.mp hstring).2⟩
      case isFalse => cases hempty

/-- A document that counts as empty is shown as a string. -/
theorem exists_shown {d : Json} {mask : Mask} {rule : Rule} {reason : Reason}
    (h : judge d.toValue mask = .ok (.empty rule reason)) : ∃ s : String, Template.shown d.toValue = s := by
  cases d with
  | text s => exact exists_string_of_judge h
  | null | bool | int | float | array | object => exact exists_shown_of_literal rfl

/-- A template that is a string gives a string as the message for a value that is shown as one. -/
theorem exists_message (template : String) (obscured : Bool) {v : Value} {shown : String}
    (hshown : Template.shown v = shown) :
    ∃ message : String, Template.render (.text template) obscured v = .ok (.text message) := by
  obtain ⟨message, count, hrender, hreplaces⟩ :=
    Template.render_replaces template obscured (Template.shownAs_iff.mpr hshown)
  have hpattern : (placeholder : Text) ≠ [] := by decide
  have hmessage := (Text.replaceAll_eq_iff hpattern).mpr ⟨count, hreplaces⟩
  have hwhole : ∀ place, .half place ∉ message := by
    intro place hmem
    rw [← hmessage] at hmem
    rcases Text.mem_of_mem_replaceFrom hmem with hput | hkept
    · rw [Template.veil] at hput
      split at hput
      · cases List.eq_of_mem_replicate hput
      · exact Text.exists_string_iff.mp ⟨shown, rfl⟩ place hput
    · exact Text.exists_string_iff.mp ⟨template, rfl⟩ place hkept
  obtain ⟨s, rfl⟩ := Text.exists_string_iff.mpr hwhole
  exact ⟨s, hrender⟩

/-- The rule that decides is one of the names that are listed. -/
theorem name_mem_of_judge {v : Value} {mask : Mask} {rule : Rule} {reason : Reason}
    (h : judge v mask = .ok (.empty rule reason)) : rule.name ∈ mask.names := by
  rw [judge_eq_firstVerdict] at h
  have hverdict := (verdict?_of_firstVerdict (Except.ok.inj h)).2
  have hhas := (Rule.verdict?_eq_some_iff.mp hverdict).1
  exact List.mem_map_of_mem (List.mem_filter.mpr ⟨rule.mem_all, hhas⟩)

/-- Where all templates are strings, every word that can be read can be checked. -/
theorem exists_checked {config : Configuration}
    (htexts : ∀ override ∈ config.overrides, ∃ s : String, override.2 = .text s)
    {word : String} {v : Value} (hvalue : wordValue word raw = .ok v) :
    ∃ checked : Checked, checked.word = word ∧ checked.By config raw := by
  have hrow := rowOf_of_wordValue config hvalue
  obtain ⟨d, hsound, rfl⟩ := exists_document_of_wordValue hvalue
  have hrendered {rule : Rule} {reason : Reason} (hjudge : judge d.toValue config.mask = .ok (.empty rule reason)) :
      ∃ message : String,
        Template.render (config.template reason) config.obscured d.toValue = .ok (.text message) := by
    obtain ⟨template, htemplate⟩ := Configuration.template_of_strings htexts reason
    obtain ⟨shown, hshown⟩ := exists_shown hjudge
    rw [htemplate]
    exact exists_message template config.obscured hshown
  rcases config.check_cases .fresh d.toValue with
    ⟨hjudge, hcheck⟩ | ⟨rule, reason, hjudge, ⟨message, hrender, hcheck⟩ | ⟨fault, hrender, -⟩⟩
  · rw [hcheck] at hrow
    exact ⟨⟨word, d, hsound, none⟩, rfl, hvalue, congrArg (Except.map Verdict.isEmpty) hjudge, nofun, hrow⟩
  · obtain ⟨message, hmessage⟩ := hrendered hjudge
    cases hmessage.symm.trans hrender
    rw [hcheck] at hrow
    refine ⟨⟨word, d, hsound, some ⟨rule, reason, message⟩⟩, rfl, hvalue, ?_, ?_, hrow⟩
    · exact congrArg (Except.map Verdict.isEmpty) hjudge
    · rintro _ ⟨⟩
      exact name_mem_of_judge hjudge
  · obtain ⟨message, hmessage⟩ := hrendered hjudge
    cases hmessage.symm.trans hrender

/-- Where all templates are strings, all words that can be read can be checked. -/
theorem exists_all_checked {config : Configuration}
    (htexts : ∀ override ∈ config.overrides, ∃ s : String, override.2 = .text s)
    {words : List String} (hwords : ∀ word ∈ words, ∃ v, wordValue word raw = .ok v) :
    ∃ checked : List Checked, checked.map (·.word) = words ∧ ∀ one ∈ checked, one.By config raw := by
  induction words with
  | nil => exact ⟨[], rfl, nofun⟩
  | cons word rest ih =>
    rw [List.forall_mem_cons] at hwords
    obtain ⟨v, hvalue⟩ := hwords.1
    obtain ⟨first, rfl, hfirst⟩ := exists_checked htexts hvalue
    obtain ⟨more, rfl, hmore⟩ := ih hwords.2
    exact ⟨first :: more, rfl, List.forall_mem_cons.mpr ⟨hfirst, hmore⟩⟩

end Emptiness.Report
