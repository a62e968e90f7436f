import Emptiness.CommandLine.Arguments
import Emptiness.Report.Outcome
import Emptiness.Text.ControlSequence

/-!
# Help pages

The program and its two commands each have a usage line and a help page. A usage fault is reported with the usage
of the command that it concerns; control sequences in it are dropped.
-/

namespace Emptiness.CommandLine

/-- What a help page is about: the program, or one of its commands. -/
inductive Page where
  | program
  | check
  | types
  deriving DecidableEq, Repr

/-- The words that call the program or the command. -/
def Page.call : Page → String
  | .program => "notempty"
  | .check => "notempty check"
  | .types => "notempty types"

/-- The call with what may follow it. -/
def Page.usage (page : Page) : String :=
  page.call ++ " " ++
    match page with
    | .program => "[OPTIONS] COMMAND [ARGS]..."
    | .check => "[OPTIONS] VALUES..."
    | .types => "[OPTIONS]"

/-- The lines of the help page below the usage. -/
def Page.body : Page → List String
  | .program => [
    "  notempty - Decide whether values count as empty.",
    "",
    "  Check values against a configurable set of emptiness rules.",
    "",
    "Options:",
    "  --version  Show the version and exit.",
    "  --help     Show this message and exit.",
    "",
    "Commands:",
    "  check  Check VALUES for emptiness.",
    "  types  List emptiness rules and their flag values."]
  | .check => [
    "  Check VALUES for emptiness.",
    "",
    "  Values are parsed as JSON, so 0, 0.0, false, null, [] and '\"\"' keep their",
    "  types. Anything that is not valid JSON is checked as a string.",
    "",
    "  Exits 1 if any value is empty.",
    "",
    "Options:",
    "  -t, --type NAME    Emptiness rule to apply (repeatable, e.g. -t zero -t",
    "                     string). Defaults to the default rule set.",
    "  -c, --config FILE  TOML options file ([notempty] table)",
    "  --json             Output results as JSON",
    "  --raw              Treat values as literal strings instead of parsing them",
    "                     as JSON",
    "  --help             Show this message and exit."]
  | .types => [
    "  List emptiness rules and their flag values.",
    "",
    "Options:",
    "  -t, --type NAME  Rule names to mark as active (defaults to the default rule",
    "                   set)",
    "  --json           Output as JSON",
    "  --help           Show this message and exit."]

/-- Lines, each with its end. -/
def unlines (lines : List String) : String :=
  String.join (lines.map fun line => line ++ "\n")

/-- The help page. -/
def Page.help (page : Page) : String :=
  unlines (("Usage: " ++ page.usage) :: "" :: page.body)

/-- The outcome of a command line that cannot be carried out. -/
def Page.refuse (page : Page) (fault : UsageFault) : Report.Outcome :=
  let line := String.ofList (Text.dropSequences ("Error: " ++ fault.message).toList)
  let lines :=
    if fault.showsUsage then
      ["Usage: " ++ page.usage, "Try '" ++ page.call ++ " --help' for help.", "", line]
    else [line]
  ⟨2, "", unlines lines⟩

end Emptiness.CommandLine
