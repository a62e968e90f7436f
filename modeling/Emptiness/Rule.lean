/-!
# Emptiness rules

Eleven rules, one bit each. A set of rules is an integer mask in two's complement, so that masks of any width
and sign are sets: `Mask.has` reads one bit, and bits that belong to no rule are ignored.
-/

namespace Emptiness

/-- A single rule about values that count as empty. -/
inductive Rule where
  | boolean
  | integer
  | float
  | string
  | zero
  | array
  | null
  | space
  | object
  | objectString
  | objectCount
  deriving DecidableEq, Repr

/-- A set of rules as an integer in two's complement. -/
abbrev Mask := Int

namespace Rule

/-- All rules, the lowest bit first. -/
def all : List Rule :=
  [boolean, integer, float, string, zero, array, null, space, object, objectString, objectCount]

/-- The place of the rule's bit. -/
def place : Rule → Nat
  | boolean => 0
  | integer => 1
  | float => 2
  | string => 3
  | zero => 4
  | array => 5
  | null => 6
  | space => 7
  | object => 8
  | objectString => 9
  | objectCount => 10

/-- The mask of the rule alone. -/
def bit (rule : Rule) : Nat :=
  1 <<< rule.place

end Rule

/-- The rule belongs to the mask. -/
def Mask.has (mask : Mask) (rule : Rule) : Bool :=
  mask / (rule.bit : Int) % 2 == 1

end Emptiness
