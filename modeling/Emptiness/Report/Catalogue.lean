import Emptiness.Json.Writer
import Emptiness.Report.Outcome
import Emptiness.Report.Table
import Emptiness.Selector

/-!
# The catalogue of rules

All rule names with their masks, whether a selection of rules contains them, and whether the default rules do.
-/

namespace Emptiness.Report

/-- What the catalogue says about a name. -/
structure CatalogueEntry where
  name : RuleName
  isActive : Bool
  isDefault : Bool

/-- All rules of a name are in the mask. -/
def containsAll (mask : Nat) (name : RuleName) : Bool :=
  mask &&& name.mask == name.mask

/-- The catalogue for a selection of rules. -/
def catalogue (mask : Nat) : List CatalogueEntry :=
  RuleName.inOrder.map fun name => ⟨name, containsAll mask name, containsAll defaultMask name⟩

/-- An entry of the JSON catalogue. -/
def CatalogueEntry.document (entry : CatalogueEntry) : Json :=
  .object [
    ("name", .text entry.name.text),
    ("value", .int entry.name.mask),
    ("active", .bool entry.isActive),
    ("default", .bool entry.isDefault)]

/-- The JSON catalogue. -/
def catalogueDocument (mask : Nat) : Json :=
  .object [("type", .int mask), ("rules", .array ((catalogue mask).map CatalogueEntry.document))]

/-- An answer in the table. -/
def yesNo (b : Bool) : String :=
  if b then "Yes" else "No"

/-- A row of the table. -/
def CatalogueEntry.cells (entry : CatalogueEntry) : List String :=
  [entry.name.text, toString entry.name.mask, yesNo entry.isActive, yesNo entry.isDefault]

/-- The columns of the table. -/
def catalogueColumns : List Column :=
  [⟨"Name", false⟩, ⟨"Value", true⟩, ⟨"Active", false⟩, ⟨"Default", false⟩]

/-- The printed table. -/
def catalogueTable (mask : Nat) : String :=
  let table : Table := ⟨"Emptiness Rules", catalogueColumns, (catalogue mask).map CatalogueEntry.cells⟩
  linesText (table.lines ++ ["", "Selected type: " ++ toString mask].map String.toList)

/-- The mask of a selection by names. -/
def selectedMask (names : List String) : Except Fault Nat :=
  if names.isEmpty then .ok defaultMask else Selector.mask (.list (names.map .string))

/-- Show the catalogue for a selection by names. -/
def runCatalogue (names : List String) (json : Bool) : Except Fault Outcome :=
  match selectedMask names with
  | .ok mask =>
    .ok ⟨0, if json then (catalogueDocument mask).render ++ "\n" else catalogueTable mask, ""⟩
  | .error fault => if isConfigurationFault fault then .ok (configurationError fault) else .error fault

end Emptiness.Report
