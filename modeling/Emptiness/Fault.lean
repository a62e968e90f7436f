import Emptiness.Number.Numeral
import Emptiness.Text.Utf8

/-!
# Faults

Everything that can go wrong, by cause. A `Misconfiguration` is a mistake in a selector, an option or an options
file; the other faults come from values that misbehave while they are read, measured or written, from files that
cannot be read, and from texts that cannot be printed. The wording of each cause is given by `message`; where it names
the type of a value, a long name is cut short.
-/

namespace Emptiness

/-- The table of an options file that holds the options. -/
def optionsTable : String := "notempty"

/-- A selector, option or options file that cannot be interpreted. -/
inductive Misconfiguration where
  | unknownRule (shown : String)
  | readOnlyTemplates
  | messagesNotMapping (typeName : String)
  | unknownOption (shown : String)
  | unknownTemplate (shown : String)
  | malformedFile
  | tableExpected (typeName : String)
  deriving DecidableEq, Repr

/-- The wording of a misconfiguration. -/
def Misconfiguration.message : Misconfiguration → String
  | .unknownRule shown => "Unknown type: " ++ shown
  | .readOnlyTemplates => "message_templates is read-only; use set_message()"
  | .messagesNotMapping typeName => "messages must be a mapping, got " ++ typeName
  | .unknownOption shown => "Unknown option: " ++ shown
  | .unknownTemplate shown => "No message template exists for key " ++ shown
  | .malformedFile => "Failed to parse options TOML"
  | .tableExpected typeName => "[" ++ optionsTable ++ "] must be a table, got " ++ typeName

/-- The name of a type as far as a message shows it: at most `limit` octets. -/
def clipName (limit : Nat) (typeName : String) : String :=
  String.ofList (Text.clipUtf8 limit typeName.toList)

/-- A value of a kind that does not support what is asked of it. -/
inductive Misuse where
  | unhashable (typeName : String)
  | signalingKey
  | notIterable (typeName : String)
  | notContainer (typeName : String)
  | flagMembership
  | bytesExpected
  | notInteger (typeName : String)
  | textExpected (typeName : String)
  | noSize (typeName : String)
  | notText (typeName : String)
  | bytesGiven
  | messageNotText (place : Nat) (typeName : String)
  | repeatedArgument (name : String)
  deriving DecidableEq, Repr

/-- The wording of a misuse. -/
def Misuse.message : Misuse → String
  | .unhashable typeName => "unhashable type: '" ++ clipName 200 typeName ++ "'"
  | .signalingKey => "Cannot hash a signaling NaN value"
  | .notIterable typeName => "'" ++ clipName 200 typeName ++ "' object is not iterable"
  | .notContainer typeName => "argument of type '" ++ clipName 200 typeName ++ "' is not iterable"
  | .flagMembership => "unsupported operand type(s) for 'in': 'str' and 'EmptyType'"
  | .bytesExpected => "a bytes-like object is required, not 'str'"
  | .notInteger typeName => "'" ++ clipName 200 typeName ++ "' object cannot be interpreted as an integer"
  | .textExpected typeName => "__str__ returned non-string (type " ++ clipName 200 typeName ++ ")"
  | .noSize typeName => "object of type '" ++ clipName 200 typeName ++ "' has no len()"
  | .notText typeName => "expected string or bytes-like object, got '" ++ clipName 200 typeName ++ "'"
  | .bytesGiven => "cannot use a string pattern on a bytes-like object"
  | .messageNotText place typeName =>
    "sequence item " ++ toString place ++ ": expected str instance, " ++ clipName 80 typeName ++ " found"
  | .repeatedArgument name => "NotEmpty.__init__() got multiple values for argument '" ++ name ++ "'"

/-- The kinds of failure that a member of a foreign object may raise. -/
inductive Alarm where
  | runtime
  | value
  | type
  | key
  deriving DecidableEq, Repr

/-- What a member of an object is asked for: its size or its text. -/
inductive Capability where
  | size
  | text
  deriving DecidableEq, Repr

/-- The call that a capability is asked for with. -/
def Capability.call : Capability → String
  | .size => "len()"
  | .text => "str()"

/-- Why a decimal number is refused: its text is no number, or no operation is possible on it. -/
inductive DecimalFault where
  | malformed
  | invalid
  deriving DecidableEq, Repr

/-- The name of the signal that a refused decimal number gives. -/
def DecimalFault.signal : DecimalFault → String
  | .malformed => "ConversionSyntax"
  | .invalid => "InvalidOperation"

/-- Anything that can go wrong. -/
inductive Fault where
  | misconfigured (cause : Misconfiguration)
  | incapable (capability : Capability) (typeName cause : String)
  | misused (cause : Misuse)
  | missingKey (shown : String)
  | missingMember (typeName member : String)
  | negativeSize
  | sizeTooLarge (typeName : String)
  | rangeTooLarge
  | numeralTooLong (digits : Option Nat)
  | decimal (cause : DecimalFault)
  | raised (alarm : Alarm) (text : String)
  | missingFile (path : String)
  | directory (shown : String)
  | nameTooLong (shown : String)
  | nullInName
  | undecodable (cause : Text.Utf8Fault)
  | unencodable
  deriving DecidableEq, Repr

/-- The wording of a fault. -/
def Fault.message : Fault → String
  | .misconfigured cause => cause.message
  | .incapable capability typeName cause => capability.call ++ " failed for " ++ typeName ++ ": " ++ cause
  | .misused cause => cause.message
  | .missingKey shown => shown
  | .missingMember typeName member => "'" ++ clipName 50 typeName ++ "' object has no attribute '" ++ member ++ "'"
  | .negativeSize => "__len__() should return >= 0"
  | .sizeTooLarge typeName => "cannot fit '" ++ clipName 200 typeName ++ "' into an index-sized integer"
  | .rangeTooLarge => "Python int too large to convert to C ssize_t"
  | .numeralTooLong count =>
    "Exceeds the limit (" ++ toString Number.digitLimit ++ " digits) for integer string conversion" ++
      (match count with
        | some n => ": value has " ++ toString n ++ " digits"
        | none => "") ++
      "; use sys.set_int_max_str_digits() to increase the limit"
  | .decimal cause => "[<class 'decimal." ++ cause.signal ++ "'>]"
  | .raised _ text => text
  | .missingFile path => "Options file not found: " ++ path
  | .directory shown => "[Errno 21] Is a directory: " ++ shown
  | .nameTooLong shown => "[Errno 36] File name too long: " ++ shown
  | .nullInName => "embedded null byte"
  | .undecodable cause => cause.message
  | .unencodable => "surrogates not allowed"

end Emptiness
