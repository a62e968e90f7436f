import Emptiness.Number.Numeral
import Emptiness.Rule
import Emptiness.Text.Blank
import Emptiness.Text.Lowercase

/-!
# Rule names

Every rule has a name, and so have two composites: `php` for the seven rules about native falsity and `all` for
every rule. A name is found whatever its case and whatever blanks surround it.
-/

namespace Emptiness

/-- The name of a rule or of a composite. -/
inductive RuleName where
  | single (rule : Rule)
  | php
  | all
  deriving DecidableEq, Repr

namespace RuleName

/-- All names in the order in which they are listed. -/
def inOrder : List RuleName :=
  [.single .boolean, .single .integer, .single .float, .single .string, .single .zero, .single .array,
    .single .null, .php, .single .space, .single .object, .single .objectString, .single .objectCount, .all]

/-- The name as it is written. -/
def text : RuleName → String
  | .single .boolean => "boolean"
  | .single .integer => "integer"
  | .single .float => "float"
  | .single .string => "string"
  | .single .zero => "zero"
  | .single .array => "array"
  | .single .null => "null"
  | .single .space => "space"
  | .single .object => "object"
  | .single .objectString => "objectstring"
  | .single .objectCount => "objectcount"
  | .php => "php"
  | .all => "all"

/-- The rules that the name stands for. -/
def rules : RuleName → List Rule
  | .single rule => [rule]
  | .php => [.boolean, .integer, .float, .string, .zero, .array, .null]
  | .all => Rule.all

/-- The mask of a list of rules. -/
def maskOf (rules : List Rule) : Nat :=
  rules.foldl (fun mask rule => mask ||| rule.bit) 0

/-- The mask that the name stands for. -/
def mask (name : RuleName) : Nat :=
  maskOf name.rules

/-- The name that a text spells, ignoring case and surrounding blanks. -/
def find? (text : Text) : Option RuleName :=
  let key := Text.lower (Text.strip text)
  inOrder.find? fun name => name.text == key

end RuleName

/-- The largest mask that holds nothing but rules. -/
def fullMask : Nat :=
  RuleName.all.mask

/-- The rules that apply unless others are chosen. -/
def defaultMask : Nat :=
  RuleName.maskOf [.boolean, .string, .array, .null, .space, .object]

/-- The name of a rule or composite with exactly this mask, or else the number itself. -/
def Mask.label (mask : Mask) : String :=
  match RuleName.inOrder.find? fun name => (name.mask : Int) == mask with
  | some name => name.text
  | none => String.ofList (Number.numeral mask)

/-- The name of a rule. -/
def Rule.name (rule : Rule) : String :=
  (RuleName.single rule).text

/-- The names of the rules in a mask, the lowest bit first. -/
def Mask.names (mask : Mask) : List String :=
  (Rule.all.filter mask.has).map Rule.name

end Emptiness
