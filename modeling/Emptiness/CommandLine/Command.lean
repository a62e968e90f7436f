import Emptiness.CommandLine.Page
import Emptiness.Report.Catalogue
import Emptiness.Report.Check
import Emptiness.Text.Alphanumeric

/-!
# Commands

A command line names one of two commands, `check` or `types`, or asks for a help page or the version. It is read
without regard to any file; only a check that is carried out needs what is found under the path of its options
file.
-/

namespace Emptiness.CommandLine

/-- The version of the program. -/
def version : String := "0.1.0"

/-- What an option sets. -/
inductive Key where
  | version
  | help
  | names
  | config
  | json
  | raw
  deriving DecidableEq, Repr

/-- The options of the program and of its commands. -/
def Page.options : Page → List (OptionSpec Key)
  | .program => [⟨.version, "--version", none, false⟩, ⟨.help, "--help", none, false⟩]
  | .check => [
    ⟨.names, "--type", some 't', true⟩,
    ⟨.config, "--config", some 'c', true⟩,
    ⟨.json, "--json", none, false⟩,
    ⟨.raw, "--raw", none, false⟩,
    ⟨.help, "--help", none, false⟩]
  | .types => [
    ⟨.names, "--type", some 't', true⟩,
    ⟨.json, "--json", none, false⟩,
    ⟨.help, "--help", none, false⟩]

/-- The option was given. -/
def isGiven (settings : List (Setting Key)) (key : Key) : Bool :=
  settings.any fun setting => setting.key == key

/-- All values given for an option. -/
def valuesOf (settings : List (Setting Key)) (key : Key) : List String :=
  settings.filterMap fun setting => if setting.key = key then setting.value else none

/-- What a command line asks for. -/
inductive Command where
  | help (page : Page)
  | version
  | check (request : Report.CheckRequest)
  | types (names : List String) (json : Bool)
  | refused (page : Page) (fault : UsageFault)

namespace Command

/-- A name of a command that looks like an option: it begins with neither a letter nor a digit. -/
def looksLikeOption (name : String) : Bool :=
  match name.toList with
  | c :: _ => !Text.isAlphanumeric c
  | [] => false

/-- Read the arguments of `check`. -/
def readCheck (arguments : List String) : Command :=
  match readArguments Page.check.options true arguments with
  | .error fault => .refused .check fault
  | .ok (settings, words) =>
    if isGiven settings .help then .help .check
    else .check {
      words := words
      names := valuesOf settings .names
      config := (valuesOf settings .config).getLast?
      json := isGiven settings .json
      raw := isGiven settings .raw }

/-- Read the arguments of `types`. -/
def readTypes (arguments : List String) : Command :=
  match readArguments Page.types.options true arguments with
  | .error fault => .refused .types fault
  | .ok (settings, words) =>
    if isGiven settings .help then .help .types
    else if !words.isEmpty then .refused .types (.unexpectedWords words)
    else .types (valuesOf settings .names) (isGiven settings .json)

/-- Read the name of a command and its arguments. -/
def readNamed : List String → Command
  | [] => .refused .program .missingCommand
  | name :: arguments =>
    if name = "check" then readCheck arguments
    else if name = "types" then readTypes arguments
    else if looksLikeOption name then .help .program
    else .refused .program (.unknownCommand name)

/-- Read a command line. -/
def read (arguments : List String) : Command :=
  if arguments.isEmpty then .help .program
  else match readArguments Page.program.options false arguments with
    | .error fault => .refused .program fault
    | .ok (setting :: _, _) => if setting.key = .version then .version else .help .program
    | .ok ([], words) => readNamed words

/-- The path of the options file that the command needs. -/
def configPath? : Command → Option String
  | .check request => request.config
  | _ => none

/-- Why a check cannot be carried out, given what is found under the path of its options file. -/
def obstacle? (request : Report.CheckRequest) (entry : FileEntry) : Option UsageFault :=
  let file := request.config.bind fun path =>
    match entry with
    | .directory => some (.directoryGiven path)
    | .content _ => none
    | _ => some (.missingFile path)
  file.or (if request.words.isEmpty then some (.missingWords "VALUES...") else none)

/-- Carry out a command, given what is found under the path of its options file. -/
def run (command : Command) (entry : FileEntry) : Except Fault Report.Outcome :=
  match command with
  | .help page => .ok ⟨0, page.help, ""⟩
  | .version => .ok ⟨0, "notempty, version " ++ CommandLine.version ++ "\n", ""⟩
  | .refused page fault => .ok (page.refuse fault)
  | .types names json => Report.runCatalogue names json
  | .check request =>
    match entry, obstacle? request entry with
    | .nullInName, _ => .error .nullInName
    | _, some fault => .ok (Page.check.refuse fault)
    | _, none => Report.runCheck request entry

end Command

/-- Carry out a command line among the files that `find` finds under their paths. -/
def run (arguments : List String) (find : String → FileEntry) : Except Fault Report.Outcome :=
  let command := Command.read arguments
  command.run ((command.configPath?.map find).getD .missing)

end Emptiness.CommandLine
