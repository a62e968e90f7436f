import Emptiness.Selector
import Emptiness.Text.Quoted
import Emptiness.Text.Split
import Emptiness.Toml.Document

/-!
# Options files

Options are read from a TOML document: from its table `notempty`, or from the whole document if it has no such
table. A path is shown without the parts that lead nowhere. Among given files a path is followed part by part, from
the directory that holds them; nothing is known of what lies outside it.
-/

namespace Emptiness

/-- What is found under a path. -/
inductive FileEntry where
  | missing
  | directory
  | content (octets : List UInt8)
  | nameTooLong
  | nullInName

/-- The parts of a path. -/
def pathParts (path : String) : List String :=
  (Text.splitAt '/' path.toList).map String.ofList

/-- A part of a path that leads nowhere. -/
def isIdlePart (part : String) : Bool :=
  part == "" || part == "."

/-- A path without the parts that lead nowhere; two slashes at its beginning are kept apart from one. -/
def plainPath (path : String) : String :=
  let parts := "/".intercalate ((pathParts path).filter fun part => !isIdlePart part)
  let slashes := (path.toList.takeWhile (· == '/')).length
  if slashes = 0 then (if parts.isEmpty then "." else parts)
  else (if slashes = 2 then "//" else "/") ++ parts

/-- The largest number of octets of a part of a path. -/
def partLimit : Nat := 255

/-- The number of octets that no path reaches. -/
def pathLimit : Nat := 4096

/-- The steps to the directory above, unless it lies outside. -/
def stepsAbove (steps : List String) : Option (List String) :=
  if steps.isEmpty then none else some steps.dropLast

/-- Follow parts of a path among files from a place: a directory that is reached by the steps, or one outside. -/
def follow (files : List (String × List UInt8)) : Option (List String) → List String → FileEntry
  | _, [] => .directory
  | place, part :: rest =>
    if isIdlePart part then follow files place rest
    else if part = ".." then follow files (place.bind stepsAbove) rest
    else if partLimit < part.utf8ByteSize then .nameTooLong
    else
      match place with
      | none => .missing
      | some steps =>
        let name := "/".intercalate (steps ++ [part])
        match files.lookup name with
        | some content => if rest.isEmpty then .content content else .missing
        | none =>
          if files.any fun file => (name ++ "/").isPrefixOf file.1 then follow files (some (steps ++ [part])) rest
          else .missing

/-- What is found under a path in a directory that holds these files. -/
def entryAmong (files : List (String × List UInt8)) (path : String) : FileEntry :=
  if path.isEmpty then .missing
  else if path.toList.contains '\x00' then .nullInName
  else if pathLimit ≤ path.utf8ByteSize then .nameTooLong
  else follow files (if path.toList.head? = some '/' then none else some []) (pathParts path)

/-- The options table of a document. -/
def optionsIn (document : Value) : Except Fault Entries :=
  match document with
  | .mapping _ entries =>
    match (Entries.find? entries (.text optionsTable)).getD document with
    | .dict table => .ok table
    | other => .error (.misconfigured (.tableExpected other.typeName))
  | other => .error (.missingMember other.qualifiedTypeName "get")

/-- The options that the octets of a file hold. -/
def optionsOfContent (octets : List UInt8) : Except Fault Entries :=
  match Text.decodeUtf8 octets with
  | .error cause => .error (.undecodable cause)
  | .ok text =>
    match Toml.read text with
    | .ok document => optionsIn (.dict document)
    | .error .malformed => .error (.misconfigured .malformedFile)
    | .error (.numeralTooLong count) => .error (.numeralTooLong (some count))

/-- The options in a file, given what was found under its path. -/
def loadOptions (path : String) : FileEntry → Except Fault Entries
  | .missing => .error (.missingFile (plainPath path))
  | .nullInName => .error (.missingFile (plainPath path))
  | .nameTooLong => .error (.nameTooLong (Text.quoted (plainPath path)))
  | .directory => .error (.directory (Text.quoted (plainPath path)))
  | .content octets => optionsOfContent octets

end Emptiness
