import Emptiness.Toml.Scalar
import Emptiness.Toml.Tree

/-!
# TOML documents

A document is a sequence of statements, each on lines of its own: a key with its value, a header that opens a
table, or a header that adds a table to an array of tables. Statements are read and applied one by one, so the
first mistake counts. Calls that nest are given fuel, and the length of the document is always enough.
-/

namespace Emptiness.Toml

/-- The parts of a key before the last one, and the last one. -/
def splitKey : List String → List String × String
  | [] => ([], "")
  | [key] => ([], key)
  | part :: rest =>
    let (path, key) := splitKey rest
    (part :: path, key)

mutual

/-- A value of any kind. -/
def readValue : Nat → List Char → Except ReadFault (Value × List Char)
  | 0, _ => .error .malformed
  | fuel + 1, source =>
    match source with
    | '[' :: rest => do
      let inside ← skipFiller false rest
      let (items, tail) ← readItems fuel inside
      return (.list items, tail)
    | '\x7b' :: rest =>
      match skipBlanks rest with
      | '\x7d' :: tail => .ok (.dict [], tail)
      | inside => do
        let (children, tail) ← readPairs fuel [] inside
        return (.dict (childEntries children), tail)
    | _ => readScalar source

/-- The items of an array up to its closing bracket; a comma may follow the last one. -/
def readItems : Nat → List Char → Except ReadFault (List Value × List Char)
  | 0, _ => .error .malformed
  | fuel + 1, source =>
    match source with
    | ']' :: tail => .ok ([], tail)
    | _ => do
      let (item, rest) ← readValue fuel source
      match ← skipFiller false rest with
      | ']' :: tail => return ([item], tail)
      | ',' :: more =>
        let inside ← skipFiller false more
        let (items, tail) ← readItems fuel inside
        return (item :: items, tail)
      | _ => throw .malformed

/-- The pairs of an inline table up to its closing brace, on one line and without a comma after the last one. -/
def readPairs : Nat → Children → List Char → Except ReadFault (Children × List Char)
  | 0, _, _ => .error .malformed
  | fuel + 1, children, source => do
    let ((parts, value), rest) ← readPair fuel source
    let (path, key) := splitKey parts
    let children ← required (children.insertAt path key value)
    match skipBlanks rest with
    | '\x7d' :: tail => return (children, tail)
    | ',' :: more => readPairs fuel children (skipBlanks more)
    | _ => throw .malformed

/-- A key with its value. -/
def readPair : Nat → List Char → Except ReadFault ((List String × Value) × List Char)
  | 0, _ => .error .malformed
  | fuel + 1, source => do
    let (parts, rest) ← readKey (source.length + 1) source
    match rest with
    | '=' :: more =>
      let (value, tail) ← readValue fuel (skipBlanks more)
      return ((parts, value), tail)
    | _ => throw .malformed

end

/-- A document of which some statements have been read: its tables, the path of the header in force, and the
number of the section that it opened. -/
structure Draft where
  root : Children
  header : List String
  current : Nat

/-- The document before its first statement. -/
def Draft.empty : Draft :=
  ⟨[], [], 0⟩

/-- Apply a key with its value. -/
def Draft.assign (draft : Draft) (parts : List String) (value : Value) : Except ReadFault Draft := do
  let (path, key) := splitKey parts
  let root ← required (draft.root.alterAt (Children.insertDotted draft.current key value path) draft.header)
  return { draft with root := root }

/-- Apply a header that opens a table. -/
def Draft.openTable (draft : Draft) (parts : List String) : Except ReadFault Draft := do
  let (path, key) := splitKey parts
  let root ← required (draft.root.alterAt (Children.declareTable (draft.current + 1) key) path)
  return ⟨root, parts, draft.current + 1⟩

/-- Apply a header that adds a table to an array of tables. -/
def Draft.addTable (draft : Draft) (parts : List String) : Except ReadFault Draft := do
  let (path, key) := splitKey parts
  let root ← required (draft.root.alterAt (Children.appendTable key) path)
  return ⟨root, parts, draft.current + 1⟩

/-- A character that a key can begin with. -/
def beginsKey (c : Char) : Bool :=
  isBare c || c = '"' || c = '\''

/-- Read one statement, if there is one before the end of the line, and apply it. -/
def readStatement (fuel : Nat) (draft : Draft) (source : List Char) : Except ReadFault (Draft × List Char) :=
  match source with
  | '[' :: '[' :: rest => do
    let (parts, rest) ← readKey fuel (skipBlanks rest)
    let draft ← draft.addTable parts
    match rest with
    | ']' :: ']' :: tail => return (draft, skipBlanks tail)
    | _ => throw .malformed
  | '[' :: rest => do
    let (parts, rest) ← readKey fuel (skipBlanks rest)
    let draft ← draft.openTable parts
    match rest with
    | ']' :: tail => return (draft, skipBlanks tail)
    | _ => throw .malformed
  | c :: _ =>
    if beginsKey c then do
      let ((parts, value), rest) ← readPair fuel source
      let draft ← draft.assign parts value
      return (draft, skipBlanks rest)
    else if c = '#' || c = '\n' then .ok (draft, source)
    else .error .malformed
  | [] => .ok (draft, [])

/-- Read statements to the end of the document. -/
def readStatements (depth : Nat) : Nat → Draft → List Char → Except ReadFault Draft
  | 0, _, _ => .error .malformed
  | fuel + 1, draft, source => do
    let (draft, rest) ← readStatement depth draft (skipBlanks source)
    match ← skipComment rest with
    | [] => return draft
    | '\n' :: more => readStatements depth fuel draft more
    | _ => throw .malformed

/-- Let every line end in a line feed alone. -/
def normalizeLineEnds : List Char → List Char
  | '\r' :: '\n' :: rest => '\n' :: normalizeLineEnds rest
  | c :: rest => c :: normalizeLineEnds rest
  | [] => []

/-- The entries of the root table of a document. -/
def read (text : List Char) : Except ReadFault Entries := do
  let source := normalizeLineEnds text
  let draft ← readStatements (4 * source.length + 4) (source.length + 1) .empty source
  return childEntries draft.root

end Emptiness.Toml
