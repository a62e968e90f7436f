import Emptiness.Value.Probe
import Emptiness.Text.Blank

/-!
# Verdicts

A value is judged by walking the rules in a fixed order: the collection rule, the rules for objects by priority,
then the rules for plain values. A rule is asked only if it is in the mask and the value has its shape, and the
first that finds the value empty decides. An object whose size or text cannot be had counts as empty too, with a
reason of its own.
-/

namespace Emptiness

/-- Why a value counts as empty: a rule found it empty, or an object failed while a rule probed it. -/
inductive Reason where
  | isEmpty
  | invalid
  deriving DecidableEq, Repr

/-- The key under which a reason is reported. -/
def Reason.key : Reason → String
  | .isEmpty => "isEmpty"
  | .invalid => "notEmptyInvalid"

/-- The outcome of judging a value. -/
inductive Verdict where
  | notEmpty
  | empty (rule : Rule) (reason : Reason)
  deriving DecidableEq, Repr

namespace Verdict

/-- The value counts as empty. -/
def isEmpty : Verdict → Bool
  | .notEmpty => false
  | .empty .. => true

/-- The rule that decided that the value is empty. -/
def rule? : Verdict → Option Rule
  | .notEmpty => none
  | .empty rule _ => some rule

/-- The reason for which the value counts as empty. -/
def reason? : Verdict → Option Reason
  | .notEmpty => none
  | .empty _ reason => some reason

end Verdict

namespace Rule

/-- The shapes that a rule looks at. -/
def shapes : Rule → List Shape
  | array => [.collection]
  | objectCount => [.object]
  | objectString => [.object]
  | object => [.object]
  | space => [.string]
  | null => [.null]
  | zero => [.string]
  | string => [.string]
  | float => [.float]
  | integer => [.integer]
  | boolean => [.boolean]

/-- The order in which the rules are asked. -/
def inOrder : List Rule :=
  [array, objectCount, objectString, object, space, null, zero, string, float, integer, boolean]

/-- The text is blank; what is no text cannot be asked. -/
def isBlankText : Value → Except Fault Bool
  | .text s => .ok (Text.allBlank s)
  | .octets .. => .error (.misused .bytesGiven)
  | v => .error (.misused (.notText v.qualifiedTypeName))

/-- The value is this text. -/
def isText (expected : String) : Value → Bool
  | .text s => s == expected
  | _ => false

/-- The rule finds the value empty, whatever its shape. -/
def holds (rule : Rule) (v : Value) : Except Fault Bool :=
  match rule with
  | boolean => .ok (match v with | .bool false => true | _ => false)
  | integer => v.equalsZero
  | float => v.equalsZero
  | string => .ok (isText "" v)
  | zero => .ok (isText "0" v)
  | array => v.size.map (· == 0)
  | null => .ok (match v with | .null => true | _ => false)
  | space => isBlankText v
  | object => .ok false
  | objectString => if v.isStringable then (v.probeText).map (· == []) else .ok false
  | objectCount => if v.isCountable then (v.probeSize).map (· == 0) else .ok false

/-- The rule is in the mask and looks at values of this shape. -/
def applies (rule : Rule) (mask : Mask) (shape : Shape) : Bool :=
  mask.has rule && rule.shapes.contains shape

end Rule

/-- Judge a value by the rules of a list, in order, as far as they are in the mask. -/
def judgeBy (order : List Rule) (v : Value) (mask : Mask) : Except Fault Verdict :=
  match order with
  | [] => .ok .notEmpty
  | rule :: rest =>
    if rule.applies mask v.shape then
      match rule.holds v with
      | .ok true => .ok (.empty rule .isEmpty)
      | .ok false => judgeBy rest v mask
      | .error (.incapable ..) => .ok (.empty rule .invalid)
      | .error fault => .error fault
    else judgeBy rest v mask

/-- Judge a value by the rules in a mask. -/
def judge (v : Value) (mask : Mask) : Except Fault Verdict :=
  judgeBy Rule.inOrder v mask

/-- The value counts as empty under the rules in a mask. -/
def isEmptyUnder (v : Value) (mask : Mask) : Except Fault Bool :=
  (judge v mask).map Verdict.isEmpty

end Emptiness
