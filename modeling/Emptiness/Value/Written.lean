import Emptiness.Number.Shortest
import Emptiness.RuleName
import Emptiness.Text.Quoted
import Emptiness.Value.Basic

/-!
# Values as text

A value has a literal, which faults show, and a text, which messages show. The two differ for text itself, for
octets never, and for objects that define a text of their own. Both fail where a numeral would be too long.
-/

namespace Emptiness

/-- The constant that a rule or composite is known by. -/
def RuleName.constant : RuleName → String
  | .single .boolean => "BOOLEAN"
  | .single .integer => "INTEGER"
  | .single .float => "FLOAT"
  | .single .string => "STRING"
  | .single .zero => "ZERO"
  | .single .array => "EMPTY_ARRAY"
  | .single .null => "NULL"
  | .single .space => "SPACE"
  | .single .object => "OBJECT"
  | .single .objectString => "OBJECT_STRING"
  | .single .objectCount => "OBJECT_COUNT"
  | .php => "PHP"
  | .all => "ALL"

/-- The names that a flag literal lists: an exact rule or composite; else the single rules, which the composites may
follow if there are bits beyond all rules. -/
def flagNames (mask : Nat) (naming : FlagNaming) : List RuleName :=
  match RuleName.inOrder.find? fun name => name.mask == mask with
  | some name => [name]
  | none =>
    let singles := (Rule.all.filter (Mask.has mask)).map RuleName.single
    if naming = .singles ∨ mask ≤ fullMask then singles
    else singles ++ [RuleName.php, .all].filter fun name => mask &&& name.mask == name.mask

/-- The parts of a flag literal: the constants of its names, and after them the bits beyond all rules. -/
def flagParts (mask : Nat) (naming : FlagNaming) : List String :=
  let names := (flagNames mask naming).map RuleName.constant
  let beyond := mask / (fullMask + 1) * (fullMask + 1)
  if names.isEmpty || beyond = 0 then names else names ++ [String.ofList (Number.digits beyond)]

/-- The literal of flags whose numeral is known. -/
def flagLiteral (mask : Nat) (naming : FlagNaming) (numeral : String) : String :=
  let parts := flagParts mask naming
  let name := if parts.isEmpty then "EmptyType" else "EmptyType." ++ "|".intercalate parts
  "<" ++ name ++ ": " ++ numeral ++ ">"

/-- The literal of a list of texts. -/
def textsLiteral (texts : List String) : String :=
  "[" ++ ", ".intercalate (texts.map fun (text : String) => Text.quoted text) ++ "]"

/-- The literal of a validator for the rules in a mask. -/
def validatorLiteral (mask : Mask) : String :=
  "NotEmpty(type=" ++ textsLiteral mask.names ++ ")"

namespace Value

/-- The numeral of an integer, or the fault that it is too long. -/
def intText (i : Int) : Except Fault String :=
  match Number.numeral? i with
  | some shown => .ok shown
  | none => .error (.numeralTooLong none)

/-- The literal of a truth value. -/
def boolText (b : Bool) : String :=
  if b then "True" else "False"

/-- The literal of a sequence whose items have these literals. -/
def sequenceLiteral (kind : SequenceKind) (items : List String) : String :=
  let shown := ", ".intercalate items
  match kind, items with
  | .list, _ => "[" ++ shown ++ "]"
  | .tuple, [item] => "(" ++ item ++ ",)"
  | .tuple, _ => "(" ++ shown ++ ")"
  | .set, [] => "set()"
  | .set, _ => "\x7b" ++ shown ++ "\x7d"
  | .frozenset, [] => "frozenset()"
  | .frozenset, _ => "frozenset(\x7b" ++ shown ++ "\x7d)"

/-- The literal of a mapping whose entries have these literals. -/
def mappingLiteral (kind : MappingKind) (entries : List String) : String :=
  let shown := "\x7b" ++ ", ".intercalate entries ++ "\x7d"
  match kind with
  | .proxy => "mappingproxy(" ++ shown ++ ")"
  | _ => shown

mutual

/-- The literal of a value. -/
def literal : Value → Except Fault String
  | .null => .ok "None"
  | .bool b => .ok (boolText b)
  | .int i => intText i
  | .float x => .ok x.text
  | .text s => .ok (Text.quoted s)
  | .sequence kind items => (itemLiterals items).map (sequenceLiteral kind)
  | .mapping kind entries => (entryLiterals entries).map (mappingLiteral kind)
  | .octets isMutable content => .ok (Text.quotedOctets isMutable content)
  | .range stop => (intText stop).map fun shown => "range(0, " ++ shown ++ ")"
  | .decimal d => .ok ("Decimal('" ++ d.text ++ "')")
  | .moment m => .ok m.literal
  | .flags mask naming => (intText mask).map (flagLiteral mask naming)
  | .exception _ arguments => (itemLiterals arguments).map fun shown => "Exception(" ++ ", ".intercalate shown ++ ")"
  | .validator _ mask => .ok (validatorLiteral mask)
  | .object _ members => .ok ("<" ++ members.className ++ ">")

/-- The literals of a run of values. -/
def itemLiterals : List Value → Except Fault (List String)
  | [] => .ok []
  | item :: rest => do
    let shown ← literal item
    let more ← itemLiterals rest
    return shown :: more

/-- The literals of a run of entries. -/
def entryLiterals : List (Value × Value) → Except Fault (List String)
  | [] => .ok []
  | (key, value) :: rest => do
    let shownKey ← literal key
    let shownValue ← literal value
    let more ← entryLiterals rest
    return (shownKey ++ ": " ++ shownValue) :: more

end

/-- The fault that a failing member raises; a missing key is shown as a literal. -/
def raise (alarm : Alarm) (message : String) : Fault :=
  .raised alarm (if alarm = .key then Text.quoted message else message)

/-- The text that a member of an object returns. -/
def replyText : Reply Value → Except Fault Text
  | .returns (.text s) => .ok s
  | .returns v => .error (.misused (.textExpected v.qualifiedTypeName))
  | .raises fault => .error fault

/-- The text of a value. -/
def written : Value → Except Fault Text
  | .text s => .ok s
  | .decimal d => .ok d.text
  | .moment m => .ok m.text
  | .flags mask _ => (intText mask).map Text.ofString
  | .mapping .proxy entries => (entryLiterals entries).map fun shown => mappingLiteral .dict shown
  | .exception _ [] => .ok []
  | .exception _ [argument] => written argument
  | .exception _ arguments => (itemLiterals arguments).map fun shown => sequenceLiteral .tuple shown
  | v@(.object _ members) =>
    match members.text with
    | some reply => replyText reply
    | none => (literal v).map Text.ofString
  | v => (literal v).map Text.ofString

/-- The fault of a value with a literal, such as a key that is missing or a rule that is unknown. -/
def faultWith (cause : String → Fault) (v : Value) : Fault :=
  match v.literal with
  | .ok shown => cause shown
  | .error fault => fault

end Value

end Emptiness
