import Emptiness.Fault
import Emptiness.Report.Table

/-!
# Outcomes

What a command leaves behind: an exit code and what it wrote to its two outputs. A wrong selection of rules and an
options file that is missing or wrong end a command with a line of their own; other faults are not its business.
-/

namespace Emptiness.Report

/-- The exit code of a command and what it wrote. -/
structure Outcome where
  code : Nat
  stdout : String
  stderr : String
  deriving DecidableEq, Repr

/-- The fault is a mistake in the configuration that a command reports. -/
def isConfigurationFault : Fault → Bool
  | .misconfigured _ => true
  | .missingFile _ => true
  | _ => false

/-- The outcome of a command whose configuration is wrong. -/
def configurationError (fault : Fault) : Outcome :=
  let line := "Configuration error: ".toList ++ Text.printed fault.message
  ⟨2, "", String.ofList ((Text.wrap .broken lineWidth line).flatMap fun shown => shown ++ ['\n'])⟩

end Emptiness.Report
