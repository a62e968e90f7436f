import Emptiness.CommandLine.Similarity
import Emptiness.Text.Quoted
import Emptiness.Text.Split

/-!
# Arguments

A command knows options with long names (`--name`) and short ones (`-n`), some with a value. Reading the arguments
of a command separates the options, in the order in which they were given, from the other words. A double hyphen
ends the options, and a hyphen alone is a word.
-/

namespace Emptiness.CommandLine

/-- An option of a command: what it sets, its long name, its short name, and whether it has a value. -/
structure OptionSpec (κ : Type) where
  key : κ
  long : String
  short : Option Char
  takesValue : Bool

/-- An option as it was given. -/
structure Setting (κ : Type) where
  key : κ
  value : Option String

/-- A command line that cannot be carried out. -/
inductive UsageFault where
  | unknownOption (name : String) (similar : List String)
  | missingValue (name : String)
  | unexpectedValue (name : String)
  | missingWords (name : String)
  | unexpectedWords (words : List String)
  | unknownCommand (name : String)
  | missingCommand
  | missingFile (path : String)
  | directoryGiven (path : String)
  deriving DecidableEq, Repr

/-- The wording of a usage fault. -/
def UsageFault.message : UsageFault → String
  | .unknownOption name similar =>
    "No such option: " ++ name ++
      (match similar with
        | [] => ""
        | [one] => " Did you mean " ++ one ++ "?"
        | many => " (Possible options: " ++ ", ".intercalate many ++ ")")
  | .missingValue name => "Option " ++ Text.quoted name ++ " requires an argument."
  | .unexpectedValue name => "Option " ++ Text.quoted name ++ " does not take a value."
  | .missingWords name => "Missing argument '" ++ name ++ "'."
  | .unexpectedWords words =>
    "Got unexpected extra argument" ++ (if words.length = 1 then "" else "s") ++ " (" ++ " ".intercalate words ++ ")"
  | .unknownCommand name => "No such command " ++ Text.quoted name ++ "."
  | .missingCommand => "Missing command."
  | .missingFile path =>
    "Invalid value for '--config' / '-c': File " ++ Text.quoted path ++ " does not exist."
  | .directoryGiven path =>
    "Invalid value for '--config' / '-c': File " ++ Text.quoted path ++ " is a directory."

/-- A fault about the value of an option is reported without the usage of the command. -/
def UsageFault.showsUsage : UsageFault → Bool
  | .missingValue _ => false
  | .unexpectedValue _ => false
  | _ => true

/-- What one argument says: the options in it, and the option that still needs the next argument as its value. -/
structure OptionReading (κ : Type) where
  settings : List (Setting κ)
  pending : Option (κ × String)

variable {κ : Type}

/-- An argument that is an option or a group of short ones. -/
def isOption : List Char → Bool
  | '-' :: _ :: _ => true
  | _ => false

/-- The part of a text before the first equals sign, and the part after it. -/
def splitAtEquals (text : List Char) : List Char × Option (List Char) :=
  (text.takeWhile (· != '='),
    match text.dropWhile (· != '=') with
    | _ :: value => some value
    | [] => none)

/-- Read a group of short options after its hyphen; the rest of the group after an option with a value is that
value. -/
def readShort (specs : List (OptionSpec κ)) : List Char → Except UsageFault (OptionReading κ)
  | [] => .ok ⟨[], none⟩
  | c :: rest =>
    match specs.find? fun spec => spec.short == some c with
    | none => .error (.unknownOption (String.ofList ['-', c]) [])
    | some spec =>
      if spec.takesValue then
        if rest.isEmpty then .ok ⟨[], some (spec.key, String.ofList ['-', c])⟩
        else .ok ⟨[⟨spec.key, some (String.ofList rest)⟩], none⟩
      else (readShort specs rest).map fun more => { more with settings := ⟨spec.key, none⟩ :: more.settings }

/-- Read an argument that is an option. -/
def readOption (specs : List (OptionSpec κ)) (argument : List Char) : Except UsageFault (OptionReading κ) :=
  let (nameChars, value) := splitAtEquals argument
  let name := String.ofList nameChars
  match specs.find? fun spec => spec.long == name with
  | some spec =>
    match spec.takesValue, value with
    | true, some value => .ok ⟨[⟨spec.key, some (String.ofList value)⟩], none⟩
    | true, none => .ok ⟨[], some (spec.key, name)⟩
    | false, some _ => .error (.unexpectedValue name)
    | false, none => .ok ⟨[⟨spec.key, none⟩], none⟩
  | none =>
    if argument.take 2 = ['-', '-'] then .error (.unknownOption name (similarWords name (specs.map (·.long))))
    else readShort specs (argument.drop 1)

/-- The options and the other words among the arguments of a command. Unless they may be mixed, the first other word
ends the options. -/
def readArguments (specs : List (OptionSpec κ)) (mixed : Bool) :
    List String → Except UsageFault (List (Setting κ) × List String)
  | [] => .ok ([], [])
  | argument :: rest =>
    if argument = "--" then .ok ([], rest)
    else if isOption argument.toList then do
      let reading ← readOption specs argument.toList
      match reading.pending with
      | none =>
        let (settings, words) ← readArguments specs mixed rest
        return (reading.settings ++ settings, words)
      | some (key, name) =>
        match rest with
        | value :: more =>
          let (settings, words) ← readArguments specs mixed more
          return (reading.settings ++ ⟨key, some value⟩ :: settings, words)
        | [] => throw (.missingValue name)
    else if mixed then do
      let (settings, words) ← readArguments specs mixed rest
      return (settings, argument :: words)
    else .ok ([], argument :: rest)

end Emptiness.CommandLine
