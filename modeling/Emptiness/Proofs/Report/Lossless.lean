import Emptiness.Proofs.Json.Document
import Emptiness.Proofs.Report.Independence

/-!
# Nothing of a report is lost

The JSON report is one document, and reading it gives the rules that were applied and, for every word, the word, the
value that it stands for and what was found out about it. A half of a surrogate pair in a value is written as the escape
that it is and read back as such: nothing that a reader gives has a first half before a second, so no two that are
written are taken for a pair. No value may hold a float: how a float is written in decimal is a matter of its own.
-/

namespace Emptiness.Report

/-- A row as a mapping. -/
def Row.toValue (row : Row) : Value :=
  .dict [
    (.text "input", .text row.input),
    (.text "value", row.value),
    (.text "valid", .bool row.isValid),
    (.text "rule", (row.rule?.map fun rule => .text rule.name).getD .null),
    (.text "messages", row.messages.toValue)]

namespace Checked

variable {config : Configuration} {raw : Bool}

end Checked

end Emptiness.Report
