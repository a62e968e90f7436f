import Emptiness.Calendar
import Emptiness.Fault
import Emptiness.Number.Decimal
import Emptiness.Text.Basic

/-!
# Values

The dynamic values that rules are applied to and that selectors, options and messages are made of. The four
kinds of sequence and the three kinds of mapping are one constructor each, because most of the library does not
tell them apart. A foreign object is known only by the members that it defines and by its identity.
-/

namespace Emptiness

/-- The kinds of sequence. Sets hold no element twice; they list integers in ascending order, and everything else in
the order of insertion. -/
inductive SequenceKind where
  | list
  | tuple
  | set
  | frozenset
  deriving DecidableEq, Repr

/-- The kinds of mapping. -/
inductive MappingKind where
  | dict
  | userDict
  | proxy
  deriving DecidableEq, Repr

/-- What a flag literal lists if there are bits beyond all rules: the single rules, or also the composites among them.
Releases of the enumeration differ in this, and in nothing else. -/
inductive FlagNaming where
  | singles
  | composites
  deriving DecidableEq, Repr

/-- What a member of a foreign object does when it is called. -/
inductive Reply (α : Type) where
  | returns (value : α)
  | raises (fault : Fault)

/-- The members that the class of a foreign object defines: its size, its text, a listing of keys, and access
to items by key. -/
structure Members (α : Type) where
  className : String
  size : Option (Reply α)
  text : Option (Reply α)
  keys : Option (Reply α)
  items : Option (List (α × α))

/-- A dynamic value. Exceptions, validators and objects are the same value only if their identities agree. -/
inductive Value where
  | null
  | bool (b : Bool)
  | int (i : Int)
  | float (x : Number.Binary64)
  | text (s : Text)
  | sequence (kind : SequenceKind) (items : List Value)
  | mapping (kind : MappingKind) (entries : List (Value × Value))
  | octets (isMutable : Bool) (content : List UInt8)
  | range (stop : Int)
  | decimal (d : Number.Decimal)
  | moment (m : Calendar.Moment)
  | flags (mask : Nat) (naming : FlagNaming := .singles)
  | exception (identity : Nat) (arguments : List Value)
  | validator (identity : Nat) (mask : Nat)
  | object (identity : Nat) (members : Members Value)

/-- Keys with their values, in order of insertion. -/
abbrev Entries := List (Value × Value)

namespace Value

instance : Inhabited Value := ⟨.null⟩

/-- A string as a value. -/
abbrev string (s : String) : Value := .text s

/-- A list of values. -/
@[match_pattern] abbrev list (items : List Value) : Value := .sequence .list items

/-- A tuple of values. -/
@[match_pattern] abbrev tuple (items : List Value) : Value := .sequence .tuple items

/-- A plain mapping. -/
@[match_pattern] abbrev dict (entries : Entries) : Value := .mapping .dict entries

/-- The name of a value's type. -/
def typeName : Value → String
  | .null => "NoneType"
  | .bool _ => "bool"
  | .int _ => "int"
  | .float _ => "float"
  | .text _ => "str"
  | .sequence .list _ => "list"
  | .sequence .tuple _ => "tuple"
  | .sequence .set _ => "set"
  | .sequence .frozenset _ => "frozenset"
  | .mapping .dict _ => "dict"
  | .mapping .userDict _ => "UserDict"
  | .mapping .proxy _ => "mappingproxy"
  | .octets isMutable _ => if isMutable then "bytearray" else "bytes"
  | .range _ => "range"
  | .decimal _ => "Decimal"
  | .moment m => m.typeName
  | .flags .. => "EmptyType"
  | .exception .. => "Exception"
  | .validator .. => "NotEmpty"
  | .object _ members => members.className

/-- The name of a value's type as faults of misuse show it: some names are preceded by where they belong. -/
def qualifiedTypeName : Value → String
  | v@(.decimal _) => "decimal." ++ v.typeName
  | v@(.moment _) => "datetime." ++ v.typeName
  | v => v.typeName

/-- The integer that a value stands for: an integer, a truth value or flags. -/
def integer? : Value → Option Int
  | .bool b => some (if b then 1 else 0)
  | .int i => some i
  | .flags mask _ => some mask
  | _ => none

/-- The number that a value stands for. -/
def number? : Value → Option Number.Decimal
  | .float x => some (.ofBinary64 x)
  | .decimal d => some d
  | v => v.integer?.map .ofInt

/-- The bits of flags made from any integer: a negative one is counted down from the end of the rules' bits, or from the
next power of two if it lies beyond them. -/
def flagBits : Int → Nat
  | .ofNat n => n
  | .negSucc n =>
    let below := n + 1
    (if below ≤ 2048 then 2048 else 1 <<< (below.log2 + 1)) - below

/-- Flags made from any integer. Together with the bit of a rule, bits beyond all rules are named by their numeral, so
there are no such flags if it would be too long. -/
def ofFlags (naming : FlagNaming) (i : Int) : Except Fault Value :=
  let mask := flagBits i
  if mask % 2048 ≠ 0 ∧ Number.numeralBound ≤ mask then .error (.numeralTooLong none) else .ok (.flags mask naming)

end Value

end Emptiness
