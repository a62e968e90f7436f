import Emptiness.Json.Reader

/-!
# Words

A word of a command line stands for the JSON document that it is, and for itself if it is none. A word is a string, so
no half of a surrogate pair stands in it by itself, but the escapes of a document may well give one.
-/

namespace Emptiness

/-- The value that a word stands for; a raw word always stands for itself. -/
def wordValue (word : String) (raw : Bool) : Except Fault Value :=
  if raw then .ok (.text word)
  else match Json.read word with
    | .ok document => .ok document.toValue
    | .error .malformed => .ok (.text word)
    | .error (.numeralTooLong count) => .error (.numeralTooLong (some count))

end Emptiness
