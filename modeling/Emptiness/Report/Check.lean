import Emptiness.Json.Writer
import Emptiness.OptionsFile
import Emptiness.Report.Outcome
import Emptiness.Report.Table
import Emptiness.Validator.Basic
import Emptiness.Word

/-!
# Checking words

Each word of a command line is read as a value and checked by one validator, made from an options file if there
is one; names of rules that are given replace the rules of the file. The report is a JSON document or a table, and
the exit code says whether any value was empty.
-/

namespace Emptiness.Report

/-- What is to be checked, and how. -/
structure CheckRequest where
  words : List String
  names : List String
  config : Option String
  json : Bool
  raw : Bool

/-- What was found out about one word. -/
structure Row where
  input : String
  value : Value
  isValid : Bool
  rule? : Option Rule
  messages : Messages

/-- The validator for a check: from the options file, with its rules replaced if any are named. -/
def buildValidator (names : List String) (config : Option (String × FileEntry)) : Except Fault Validator := do
  let validator ← match config with
    | some (path, entry) => do
      let options ← loadOptions path entry
      Validator.build (.dict options) []
    | none => Validator.build .null []
  if names.isEmpty then return validator
  else
    let (after, answer) := validator.step (.setType (.list (names.map .string)))
    let _ ← answer
    return after

/-- The row of a word, and the validator afterwards. -/
def checkWord (validator : Validator) (raw : Bool) (word : String) : Except Fault (Validator × Row) := do
  let value ← wordValue word raw
  let (after, answer) := validator.check value
  let isValid ← answer
  return (after, ⟨word, value, isValid, after.record.verdict.rule?, after.record.messages⟩)

/-- The rows of words checked one after the other. -/
def checkWords (validator : Validator) (raw : Bool) : List String → Except Fault (List Row)
  | [] => .ok []
  | word :: rest => do
    let (after, row) ← checkWord validator raw word
    let rows ← checkWords after raw rest
    return row :: rows

/-- A row of the JSON report. -/
def Row.document (row : Row) : Except Fault Json := do
  let value ← Json.ofValue row.value
  let messages ← Json.ofValue row.messages.toValue
  return .object [
    ("input", .text row.input),
    ("value", value),
    ("valid", .bool row.isValid),
    ("rule", (row.rule?.map fun rule => .text rule.name).getD .null),
    ("messages", messages)]

/-- The documents of all rows. -/
def rowDocuments : List Row → Except Fault (List Json)
  | [] => .ok []
  | row :: rest => do
    let document ← row.document
    let more ← rowDocuments rest
    return document :: more

/-- The JSON report. -/
def checkDocument (mask : Mask) (rows : List Row) : Except Fault Json := do
  let results ← rowDocuments rows
  return .object [
    ("type", .int mask),
    ("rules", .array (mask.names.map .string)),
    ("results", .array results)]

/-- The texts of messages; a message that is no text cannot be shown in a table. -/
def messageTexts (place : Nat) : Messages → Except Fault (List Text)
  | [] => .ok []
  | (_, .text s) :: rest => (messageTexts (place + 1) rest).map (s :: ·)
  | (_, other) :: _ => .error (.misused (.messageNotText place other.qualifiedTypeName))

/-- A row of the table. -/
def Row.cells (row : Row) : Except Fault (List Text) := do
  let messages ← messageTexts 0 row.messages
  return [
    row.input,
    row.value.typeName,
    if row.isValid then "not empty" else "empty",
    (row.rule?.map Rule.name).getD "-",
    List.intercalate "; " messages]

/-- The cells of all rows. -/
def rowCells : List Row → Except Fault (List (List Text))
  | [] => .ok []
  | row :: rest => do
    let cells ← row.cells
    let more ← rowCells rest
    return cells :: more

/-- A text as it is printed: half a surrogate pair has no encoding. -/
def encoded (text : Text) : Except Fault String :=
  match text.string? with
  | some s => .ok s
  | none => .error .unencodable

/-- The columns of the table. -/
def checkColumns : List Column :=
  ["Input", "Parsed As", "Result", "Rule", "Message"].map fun header => ⟨header, false⟩

/-- The number of rows whose value was empty. -/
def emptyCount (rows : List Row) : Nat :=
  (rows.filter fun row => !row.isValid).length

/-- The lines below the table. -/
def checkFooter (mask : Mask) (rows : List Row) : List String :=
  let names := ", ".intercalate mask.names
  ["", "Rules: " ++ (if names.isEmpty then "(none)" else names),
    "Total: " ++ toString rows.length ++ " values, " ++ toString (emptyCount rows) ++ " empty"]

/-- The printed table. -/
def checkTable (mask : Mask) (rows : List Row) : Except Fault String := do
  let cells ← rowCells rows
  let shown ← cells.mapM fun row => row.mapM encoded
  let table : Table := ⟨"Emptiness Check", checkColumns, shown⟩
  return linesText (table.lines ++ (checkFooter mask rows).map String.toList)

/-- What is written about the rows. -/
def checkOutput (json : Bool) (mask : Mask) (rows : List Row) : Except Fault String :=
  if json then (checkDocument mask rows).map fun document => document.render ++ "\n"
  else checkTable mask rows

/-- Check words by a validator. -/
def checkBy (validator : Validator) (words : List String) (json raw : Bool) : Except Fault Outcome := do
  let rows ← checkWords validator raw words
  let output ← checkOutput json validator.config.mask rows
  return ⟨if emptyCount rows = 0 then 0 else 1, output, ""⟩

/-- Check the words of a request; `entry` is what was found under the path of its options file. -/
def runCheck (request : CheckRequest) (entry : FileEntry) : Except Fault Outcome :=
  match buildValidator request.names (request.config.map fun path => (path, entry)) with
  | .ok validator => checkBy validator request.words request.json request.raw
  | .error fault => if isConfigurationFault fault then .ok (configurationError fault) else .error fault

end Emptiness.Report
