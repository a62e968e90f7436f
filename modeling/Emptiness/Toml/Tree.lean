import Emptiness.Value.Basic

/-!
# Tables under construction

The tables of a TOML document while it is read. A table comes into being under a header of its own, as a step of
a longer header, or as a step of a dotted key. One that has had a header can have no second one and cannot be
extended by dotted keys; the same holds of a table made by dotted keys as soon as the section in which they stand
has ended. Sections are numbered, so each table keeps the first section in which it is closed. Plain values,
inline tables and inline arrays are leaves and cannot be extended at all.
-/

namespace Emptiness.Toml

/-- What stands under a key: a value, a table, or an array of tables of which only the last can still grow. -/
inductive Node where
  | leaf (value : Value)
  | table (closedFrom : Option Nat) (children : List (String × Node))
  | tables (earlier : List (List (String × Node))) (last : List (String × Node))

/-- Keys with what stands under them, in order of insertion. -/
abbrev Children := List (String × Node)

namespace Children

/-- Replace or add what stands under a key; the change fails where `change` does. -/
def alter (key : String) (change : Option Node → Option Node) : Children → Option Children
  | [] => (change none).map fun node => [(key, node)]
  | (known, node) :: rest =>
    if known = key then (change (some node)).map fun changed => (known, changed) :: rest
    else (alter key change rest).map fun changed => (known, node) :: changed

/-- Change the table at the end of a path; tables that are missing on the way are made, and the last table of an
array stands for the array. -/
def alterAt (change : Children → Option Children) : List String → Children → Option Children
  | [], children => change children
  | key :: path, children =>
    children.alter key fun
      | none => (alterAt change path []).map (.table none)
      | some (.table closedFrom inner) => (alterAt change path inner).map (.table closedFrom)
      | some (.tables earlier last) => (alterAt change path last).map (.tables earlier)
      | some (.leaf _) => none

/-- Put a value under a key that is not in use. -/
def insert (key : String) (value : Value) : Children → Option Children :=
  alter key fun
    | none => some (.leaf value)
    | some _ => none

/-- Put a value at the end of a path that may lead through new tables; the last part of the path is its key. -/
def insertAt (path : List String) (key : String) (value : Value) : Children → Option Children :=
  alterAt (insert key value) path

/-- The table is closed in this section. -/
def isClosed (closedFrom : Option Nat) (current : Nat) : Bool :=
  match closedFrom with
  | some first => first ≤ current
  | none => false

/-- Put a value under a dotted key: each table on the way must be open in this section, and will be closed in the
next. -/
def insertDotted (current : Nat) (key : String) (value : Value) : List String → Children → Option Children
  | [], children => insert key value children
  | step :: path, children =>
    children.alter step fun
      | none => (insertDotted current key value path []).map (.table (some (current + 1)))
      | some (.table closedFrom inner) =>
        if isClosed closedFrom current then none
        else (insertDotted current key value path inner).map (.table (some (current + 1)))
      | some _ => none

/-- Give a table its header. -/
def declareTable (current : Nat) (key : String) : Children → Option Children :=
  alter key fun
    | none => some (.table (some 0) [])
    | some (.table closedFrom inner) => if isClosed closedFrom current then none else some (.table (some 0) inner)
    | some _ => none

/-- Add a table to an array of tables. -/
def appendTable (key : String) : Children → Option Children :=
  alter key fun
    | none => some (.tables [] [])
    | some (.tables earlier last) => some (.tables (earlier ++ [last]) [])
    | some _ => none

end Children

mutual

/-- The value that a node stands for. -/
def Node.toValue : Node → Value
  | .leaf value => value
  | .table _ children => .dict (childEntries children)
  | .tables earlier last => .list (tableValues earlier ++ [.dict (childEntries last)])

/-- The entries that the children of a table stand for. -/
def childEntries : List (String × Node) → List (Value × Value)
  | [] => []
  | (key, node) :: rest => (.text key, node.toValue) :: childEntries rest

/-- The values that a run of tables stands for. -/
def tableValues : List (List (String × Node)) → List Value
  | [] => []
  | children :: rest => .dict (childEntries children) :: tableValues rest

end

end Emptiness.Toml
