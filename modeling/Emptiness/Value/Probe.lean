import Emptiness.Value.Written

/-!
# Shapes and probes

The shape of a value decides which rules may look at it. Beyond its shape a value may be able to report a size
and a text of its own; a foreign object may also fail to do so, and then the probe names the object and the cause.
-/

namespace Emptiness

/-- What a value looks like to the rules. -/
inductive Shape where
  | boolean
  | integer
  | float
  | string
  | null
  | collection
  | object
  deriving DecidableEq, Repr

/-- The name of a shape. -/
def Shape.name : Shape → String
  | .boolean => "boolean"
  | .integer => "integer"
  | .float => "float"
  | .string => "string"
  | .null => "null"
  | .collection => "collection"
  | .object => "object"

namespace Value

/-- The shape of a value: lists, tuples and plain mappings are collections, and what fits nowhere else is an
object. -/
def shape : Value → Shape
  | .null => .null
  | .bool _ => .boolean
  | .int _ => .integer
  | .flags .. => .integer
  | .float _ => .float
  | .text _ => .string
  | .sequence .list _ => .collection
  | .sequence .tuple _ => .collection
  | .mapping .dict _ => .collection
  | _ => .object

/-- The value's type reports a size. -/
def isCountable : Value → Bool
  | .text _ | .sequence .. | .mapping .. | .octets .. | .range _ | .flags .. => true
  | .object _ members => members.size.isSome
  | _ => false

/-- The value's type has a text of its own, other than its literal. -/
def isStringable : Value → Bool
  | .text _ | .mapping .proxy _ | .octets .. | .decimal _ | .moment _ | .flags .. | .exception .. => true
  | .object _ members => members.text.isSome
  | _ => false

/-- The largest size that can be reported. -/
def sizeBound : Nat := 1 <<< 63

/-- The number of bits that are set. -/
def bitCount (n : Nat) : Nat :=
  ((List.range (n.log2 + 1)).filter n.testBit).length

/-- The size that a member of an object returns. -/
def replySize : Reply Value → Except Fault Nat
  | .returns v =>
    match v.integer? with
    | none => .error (.misused (.notInteger v.qualifiedTypeName))
    | some i =>
      if i < 0 then .error .negativeSize
      else if (sizeBound : Int) ≤ i then .error (.sizeTooLarge v.typeName)
      else .ok i.toNat
  | .raises fault => .error fault

/-- The size of a value. -/
def size : Value → Except Fault Nat
  | .text s => .ok s.length
  | .sequence _ items => .ok items.length
  | .mapping _ entries => .ok entries.length
  | .octets _ content => .ok content.length
  | .range stop => if (sizeBound : Int) ≤ stop then .error .rangeTooLarge else .ok stop.toNat
  | .flags mask _ => .ok (bitCount mask)
  | v@(.object _ members) =>
    match members.size with
    | some reply => replySize reply
    | none => .error (.misused (.noSize v.qualifiedTypeName))
  | v => .error (.misused (.noSize v.qualifiedTypeName))

/-- The value counts as true: it is neither zero nor empty nor null. -/
def truth : Value → Except Fault Bool
  | .null => .ok false
  | .bool b => .ok b
  | .int i => .ok (i != 0)
  | .float x => .ok (!x.isZero)
  | .decimal d => .ok (!d.isZero)
  | .flags mask _ => .ok (mask != 0)
  | .text s => .ok !s.isEmpty
  | .sequence _ items => .ok !items.isEmpty
  | .mapping _ entries => .ok !entries.isEmpty
  | .octets _ content => .ok !content.isEmpty
  | .range stop => .ok (decide (0 < stop))
  | .object _ members =>
    match members.size with
    | some reply => (replySize reply).map (· != 0)
    | none => .ok true
  | .moment _ | .exception .. | .validator .. => .ok true

/-- The number is zero; what is no number is not. A signaling decimal cannot be compared at all. -/
def equalsZero (v : Value) : Except Fault Bool :=
  match v.number? with
  | some (.nan _ true _) => .error (.decimal .invalid)
  | some d => .ok d.isZero
  | none => .ok false

/-- Name the value whose capability failed. -/
def probed {α : Type} (capability : Capability) (v : Value) (answer : Except Fault α) : Except Fault α :=
  answer.mapError fun fault => .incapable capability v.typeName fault.message

/-- Ask a value for its size. -/
def probeSize (v : Value) : Except Fault Nat :=
  probed .size v v.size

/-- Ask a value for its text. -/
def probeText (v : Value) : Except Fault Text :=
  probed .text v v.written

end Value

end Emptiness
