import Emptiness.Value.Written

/-!
# JSON documents

A JSON document keeps whole numbers and other numbers apart, and its objects keep their members in order. Every
document is a value; a value becomes a document by writing out whatever JSON has no notation for.
-/

namespace Emptiness

/-- A JSON document. -/
inductive Json where
  | null
  | bool (b : Bool)
  | int (i : Int)
  | float (x : Number.Binary64)
  | text (s : Text)
  | array (items : List Json)
  | object (members : List (Text × Json))

namespace Json

/-- A string as a document. -/
abbrev string (s : String) : Json := .text s

/-- Put a member under its name: a name that is present keeps its place, a new one goes to the end. -/
def put : List (Text × Json) → Text → Json → List (Text × Json)
  | [], name, item => [(name, item)]
  | (known, old) :: rest, name, item =>
    if known = name then (known, item) :: rest else (known, old) :: put rest name item

/-- An object of members of which a later one replaces an earlier one of the same name. -/
def ofMembers (members : List (Text × Json)) : Json :=
  .object (members.foldl (fun done member => put done member.1 member.2) [])

mutual

/-- The value that a document stands for. -/
def toValue : Json → Value
  | .null => .null
  | .bool b => .bool b
  | .int i => .int i
  | .float x => .float x
  | .text s => .text s
  | .array items => .list (toValues items)
  | .object members => .dict (toEntries members)

/-- The values that a run of documents stands for. -/
def toValues : List Json → List Value
  | [] => []
  | item :: rest => toValue item :: toValues rest

/-- The entries that a run of members stands for. -/
def toEntries : List (Text × Json) → List (Value × Value)
  | [] => []
  | (name, item) :: rest => (.text name, toValue item) :: toEntries rest

end

/-- The whole number as a document, or the fault that its numeral is too long. -/
def ofInt (i : Int) : Except Fault Json :=
  if i.natAbs < Number.numeralBound then .ok (.int i) else .error (.numeralTooLong none)

mutual

/-- The document that shows a value. -/
def ofValue : Value → Except Fault Json
  | .null => .ok .null
  | .bool b => .ok (.bool b)
  | .int i => ofInt i
  | .flags mask _ => ofInt mask
  | .float x => .ok (.float x)
  | .text s => .ok (.text s)
  | .sequence .list items => (ofValues items).map .array
  | .sequence .tuple items => (ofValues items).map .array
  | .mapping .dict entries => (ofEntries entries).map .object
  | v => v.written.map .text

/-- The documents that show a run of values. -/
def ofValues : List Value → Except Fault (List Json)
  | [] => .ok []
  | item :: rest => do
    let shown ← ofValue item
    let more ← ofValues rest
    return shown :: more

/-- The members that show a run of entries. -/
def ofEntries : List (Value × Value) → Except Fault (List (Text × Json))
  | [] => .ok []
  | (key, value) :: rest => do
    let name ← key.written
    let shown ← ofValue value
    let more ← ofEntries rest
    return (name, shown) :: more

end

end Json

end Emptiness
