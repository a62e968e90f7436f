import Emptiness.Text.Substitute
import Emptiness.Value.Mapping
import Emptiness.Verdict

/-!
# Message templates

Every reason has a template for its message. A template may be replaced by any value; one that is text shows the
value in question wherever it holds the placeholder, and one that is a container without the placeholder stands
for itself.
-/

namespace Emptiness

/-- The text that stands for the value in a template. -/
def placeholder : String := "%value%"

/-- The reasons, in the order in which their templates are listed. -/
def Reason.inOrder : List Reason :=
  [.isEmpty, .invalid]

/-- The template of a reason that has not been replaced. -/
def Reason.template : Reason → String
  | .isEmpty => "Value is required and can't be empty"
  | .invalid => "Invalid type given. String, integer, float, boolean or array expected"

/-- The reason that a key names. -/
def Reason.ofKey? : Value → Option Reason
  | .text name => inOrder.find? fun reason => reason.key == name
  | _ => none

/-- Templates or messages under their reasons, in order of insertion. -/
abbrev Messages := List (Reason × Value)

namespace Messages

/-- The entry under a reason. -/
def get? (messages : Messages) (reason : Reason) : Option Value :=
  messages.lookup reason

/-- Put an entry: a reason that is present keeps its place, a new one goes to the end. -/
def put : Messages → Reason → Value → Messages
  | [], reason, message => [(reason, message)]
  | (known, old) :: rest, reason, message =>
    if known = reason then (known, message) :: rest else (known, old) :: put rest reason message

/-- The messages as a mapping from the keys of their reasons. -/
def toValue (messages : Messages) : Value :=
  .dict (messages.map fun message => (.text message.1.key, message.2))

end Messages

/-- The templates that have not been replaced, as a mapping. -/
def defaultTemplates : Value :=
  Messages.toValue (Reason.inOrder.map fun reason => (reason, .text reason.template))

namespace Template

/-- The template is a container that holds the placeholder. -/
def holdsPlaceholder : Value → Except Fault Bool
  | .text s => .ok (Text.occurs placeholder s)
  | .sequence _ items => .ok (items.any (Rule.isText placeholder))
  | .mapping _ entries => .ok (entries.any fun entry => Rule.isText placeholder entry.1)
  | .range _ => .ok false
  | .octets .. => .error (.misused .bytesExpected)
  | .flags .. => .error (.misused .flagMembership)
  | v@(.object _ { items := some _, .. }) =>
    match v.elements 0 with
    | .error fault => .error fault
    | .ok found =>
      if found.items.any (Rule.isText placeholder) then .ok true
      else match found.fault? with
        | some fault => .error fault
        | none => .ok false
  | v => .error (.misused (.notContainer v.qualifiedTypeName))

/-- The text that stands in a message for the value in question: nothing for nothing, and the name of its type
if it cannot be written. -/
def shown : Value → Text
  | .null => []
  | v =>
    match v.written with
    | .ok s => s
    | .error _ => v.typeName

/-- The text that stands in a message for the value in question, or as many asterisks. -/
def display (obscured : Bool) (v : Value) : Text :=
  if obscured then List.replicate (shown v).length '*' else shown v

/-- The message that a template gives for a value. -/
def render (template : Value) (obscured : Bool) (v : Value) : Except Fault Value := do
  if ← holdsPlaceholder template then
    match template with
    | .text s => return .text (Text.replaceAll placeholder (display obscured v) s)
    | other => throw (.missingMember other.qualifiedTypeName "replace")
  else return template

end Template

end Emptiness
