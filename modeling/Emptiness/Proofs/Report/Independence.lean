import Emptiness.Proofs.Report.Rows
import Mathlib.Data.List.Forall2

/-!
# Words are checked independently of each other

The rows of a report on words that are taken together are the rows of the reports on the words apart, though one
validator checks all of them. A row tells in three ways whether its value is empty, and the exit code and the counts
below a table tell the same of all rows.
-/

namespace Emptiness.Report

/-- The row of the JSON report for a word that is checked by a new validator. -/
def resultOf (config : Configuration) (raw : Bool) (word : String) : Except Fault Json := do
  let row ← rowOf config raw word
  row.document

/-- What a row of the JSON report says about the word: whether the value that the word stands for is empty under the
rules in the mask. The rule and the messages say it too, and the rule is one of the mask. -/
def IsResult (mask : Mask) (raw : Bool) (word : String) (result : Json) : Prop :=
  ∃ shown isValid rule messages,
    result = .object [("input", .text word), ("value", shown), ("valid", .bool isValid), ("rule", rule),
      ("messages", messages)] ∧
    wordValue word raw = .ok shown.toValue ∧ isEmptyUnder shown.toValue mask = .ok (!isValid) ∧
    (isValid = true ↔ rule = .null) ∧ (isValid = true ↔ messages = .object []) ∧
    (rule ≠ .null → rule ∈ mask.names.map Json.string)

/-- A row of the JSON report says that its value is empty. -/
def saysEmpty : Json → Bool
  | .object members =>
    match members.lookup ("valid" : Text) with
    | some (.bool isValid) => !isValid
    | _ => false
  | _ => false

/-- The exit code that the rows of a JSON report call for. -/
def exitCode (results : List Json) : Nat :=
  if results.any saysEmpty then 1 else 0

/-- The JSON report with the rules of a mask and these rows. -/
def reportDocument (mask : Mask) (results : List Json) : Json :=
  .object [("type", .int mask), ("rules", .array (mask.names.map .string)), ("results", .array results)]

/-- The last line below a table. -/
def totalLine (values empties : Nat) : String :=
  "Total: " ++ toString values ++ " values, " ++ toString empties ++ " empty"

/-- A request to check words gives these rows, each of them as if its word were checked alone, and an exit code that
follows from them. Printed as a table it gives the same code and the same counts. -/
structure Reports (request : CheckRequest) (entry : FileEntry) (config : Configuration) (words : List String)
    (results : List Json) : Prop where
  results_eq : words.mapM (resultOf config request.raw) = .ok results
  rows : List.Forall₂ (IsResult config.mask request.raw) words results
  document : runCheck { request with words := words, json := true } entry =
    .ok ⟨exitCode results, (reportDocument config.mask results).render ++ "\n", ""⟩
  table : ∃ lines, runCheck { request with words := words, json := false } entry =
    .ok ⟨exitCode results, linesText (lines ++ [(totalLine results.length (results.countP saysEmpty)).toList]), ""⟩

/-- The exit code for rows taken together is the larger of the two. -/
theorem exitCode_append (first second : List Json) :
    exitCode (first ++ second) = max (exitCode first) (exitCode second) := by
  unfold exitCode
  rw [List.any_append]
  cases first.any saysEmpty <;> cases second.any saysEmpty <;> rfl

namespace Checked

variable {config : Configuration} {raw : Bool}

/-- A row that is shown as a document says whether the value is empty. -/
theorem saysEmpty_document (checked : Checked) : saysEmpty checked.document = !checked.row.isValid :=
  rfl

/-- The rows of a report are those whose documents say so. -/
theorem emptyCount_map (checked : List Checked) :
    emptyCount (checked.map row) = (checked.map document).countP saysEmpty := by
  simp [emptyCount, List.filter_map, List.countP_eq_length_filter, Function.comp_def, saysEmpty_document]

/-- The document of a word that was checked is what a row says about the word. -/
theorem By.isResult {checked : Checked} (h : checked.By config raw) :
    IsResult config.mask raw checked.word checked.document := by
  refine ⟨checked.shown, checked.complaint?.isNone, _, _, rfl, h.value_eq, ?_, ?_, ?_, ?_⟩
  · rw [h.isEmpty_eq]
    cases checked.complaint? <;> rfl
  · cases checked.complaint? <;> simp
  · cases checked.complaint? <;> simp
  · intro hrule
    cases hcomplaint : checked.complaint? with
    | none => simp [hcomplaint] at hrule
    | some complaint => exact List.mem_map_of_mem (h.rule_mem complaint hcomplaint)

/-- The exit code follows from the rows of the JSON report. -/
theorem exitCode_map (checked : List Checked) :
    (if emptyCount (checked.map row) = 0 then 0 else 1) = exitCode (checked.map document) := by
  rw [emptyCount_map, exitCode]
  by_cases hany : (checked.map document).any saysEmpty = true
  · have hcount : ¬ (checked.map document).countP saysEmpty = 0 := by
      rw [List.countP_eq_zero]
      simpa using hany
    rw [if_neg hcount, if_pos hany]
  · have hcount : (checked.map document).countP saysEmpty = 0 := by
      rw [List.countP_eq_zero]
      simpa using hany
    rw [if_pos hcount, if_neg hany]

/-- The row of a word that was checked is the one of the JSON report. -/
theorem By.resultOf_eq {checked : Checked} (h : checked.By config raw) :
    resultOf config raw checked.word = .ok checked.document := by
  rw [resultOf, h.row_eq]
  exact checked.row_document

/-- The rows of words that were checked make a JSON report. -/
theorem checkDocument_map (mask : Mask) (checked : List Checked) :
    checkDocument mask (checked.map row) = .ok (reportDocument mask (checked.map document)) := by
  rw [checkDocument, rowDocuments_map]
  rfl

/-- The rows of words that were checked make a table, with their counts in the last line. -/
theorem exists_checkTable (mask : Mask) (checked : List Checked) :
    ∃ lines, checkTable mask (checked.map row) = .ok (linesText (lines ++
      [(totalLine (checked.map document).length ((checked.map document).countP saysEmpty)).toList])) := by
  let table : Table := ⟨"Emptiness Check", checkColumns, checked.map cells⟩
  have hlength : (checked.map document).length = (checked.map row).length := by simp
  refine ⟨table.lines ++ ((checkFooter mask (checked.map row)).take 2).map String.toList, ?_⟩
  have htable : checkTable mask (checked.map row) =
      .ok (linesText (table.lines ++ (checkFooter mask (checked.map row)).map String.toList)) := by
    simp only [checkTable, rowCells_map, bind, Except.bind, mapM_encoded]
    rfl
  rw [htable, ← emptyCount_map, hlength]
  simp [checkFooter, totalLine, table]

variable {request : CheckRequest} {entry : FileEntry} {validator : Validator}

/-- A request whose words can be checked ends with what is written about their rows. -/
theorem runCheck_eq
    (hbuild : buildValidator request.names (request.config.map fun path => (path, entry)) = .ok validator)
    {checked : List Checked} (h : ∀ one ∈ checked, one.By validator.config request.raw) {json : Bool} {output : String}
    (houtput : checkOutput json validator.config.mask (checked.map row) = .ok output) :
    runCheck { request with words := checked.map (·.word), json := json } entry =
      .ok ⟨exitCode (checked.map document), output, ""⟩ := by
  have hrows := checkWords_eq_mapM validator request.raw (checked.map (·.word))
  rw [mapM_map_eq_ok fun one hone => (h one hone).row_eq] at hrows
  rw [← exitCode_map]
  simp only [runCheck, hbuild, checkBy, hrows, bind, Except.bind, houtput, pure, Except.pure]

/-- A request whose words can be checked gives their rows, as a document and as a table. -/
theorem reports (hbuild : buildValidator request.names (request.config.map fun path => (path, entry)) = .ok validator)
    {checked : List Checked} (h : ∀ one ∈ checked, one.By validator.config request.raw) :
    Reports request entry validator.config (checked.map (·.word)) (checked.map document) where
  results_eq := mapM_map_eq_ok fun one hone => (h one hone).resultOf_eq
  rows := by
    rw [List.forall₂_map_left_iff, List.forall₂_map_right_iff, List.forall₂_same]
    exact fun one hone => (h one hone).isResult
  document := by
    refine runCheck_eq hbuild h ?_
    rw [checkOutput, if_pos rfl, checkDocument_map]
    rfl
  table := by
    obtain ⟨lines, htable⟩ := exists_checkTable validator.config.mask checked
    exact ⟨lines, runCheck_eq hbuild h htable⟩

end Checked

/-- Words that can be read are checked independently of each other: the rows for words taken together are the rows for
the words apart, and the exit code is the larger of the two. -/
theorem runCheck_append {request : CheckRequest} {entry : FileEntry} {validator : Validator} {xs ys : List String}
    (hbuild : buildValidator request.names (request.config.map fun path => (path, entry)) = .ok validator)
    (htexts : ∀ override ∈ validator.config.overrides, ∃ s : String, override.2 = .text s)
    (hwords : ∀ word ∈ xs ++ ys, ∃ v, wordValue word request.raw = .ok v) :
    ∃ first second,
      Reports request entry validator.config xs first ∧ Reports request entry validator.config ys second ∧
      Reports request entry validator.config (xs ++ ys) (first ++ second) ∧
      exitCode (first ++ second) = max (exitCode first) (exitCode second) := by
  rw [List.forall_mem_append] at hwords
  obtain ⟨first, rfl, hfirst⟩ := exists_all_checked htexts hwords.1
  obtain ⟨second, rfl, hsecond⟩ := exists_all_checked htexts hwords.2
  have hboth := Checked.reports hbuild (List.forall_mem_append.mpr ⟨hfirst, hsecond⟩)
  rw [List.map_append, List.map_append] at hboth
  exact ⟨_, _, Checked.reports hbuild hfirst, Checked.reports hbuild hsecond, hboth, exitCode_append _ _⟩

/-- A list is not empty under the rules for zero and blank text, which are named beside a file with a template, but a
zero and a blank are: one of them is read as a document, and the other is none. -/
theorem runCheck_append_of_template :
    let request : CheckRequest := ⟨[], ["zero", "Space"], some "check.toml", true, false⟩
    let entry : FileEntry := .content "[messages]\nisEmpty = '%value%?'\n".toUTF8.data.toList
    let validator := Validator.ofConfiguration ⟨144, [(.isEmpty, .text "%value%?")], false, []⟩
    let xs := ["[-7.5, null]"]
    let ys := ["\"0\"", " "]
    buildValidator request.names (request.config.map fun path => (path, entry)) = .ok validator ∧
      (∀ override ∈ validator.config.overrides, ∃ s : String, override.2 = .text s) ∧
      (∀ word ∈ xs ++ ys, ∃ v, wordValue word request.raw = .ok v) ∧
      ∃ first second,
        Reports request entry validator.config xs first ∧ Reports request entry validator.config ys second ∧
        Reports request entry validator.config (xs ++ ys) (first ++ second) ∧
        exitCode (first ++ second) = max (exitCode first) (exitCode second) := by
  intro request entry validator xs ys
  have hbuild : buildValidator request.names (request.config.map fun path => (path, entry)) = .ok validator := rfl
  have htexts : ∀ override ∈ validator.config.overrides, ∃ s : String, override.2 = .text s :=
    List.forall_mem_singleton.mpr ⟨_, rfl⟩
  have hread {word : String} (h : (wordValue word false).isOk = true) : ∃ v, wordValue word false = .ok v := by
    cases hvalue : wordValue word false with
    | error fault => simp [hvalue, Except.isOk, Except.toBool] at h
    | ok v => exact ⟨v, rfl⟩
  have hwords : ∀ word ∈ xs ++ ys, ∃ v, wordValue word request.raw = .ok v := by
    simp only [xs, ys, request, List.cons_append, List.nil_append, List.forall_mem_cons]
    exact ⟨hread (by decide +kernel), hread (by decide +kernel), hread (by decide +kernel), nofun⟩
  exact ⟨hbuild, htexts, hwords, runCheck_append hbuild htexts hwords⟩

end Emptiness.Report
