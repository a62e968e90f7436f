import Emptiness.Main
import Emptiness.Number.Reading
import Emptiness.Proofs.CommandLine.Arguments
import Emptiness.Proofs.Report.Agreement
import Emptiness.Proofs.Report.Lossless
import Emptiness.Proofs.Selector.Faults
import Emptiness.Proofs.Selector.Listing
import Emptiness.Proofs.Validator.Message
import Emptiness.Proofs.Validator.Refusal
import Emptiness.Proofs.Validator.Snapshot
import Emptiness.Proofs.Verdict.Decision
import Emptiness.Proofs.Verdict.Observation
import Emptiness.Proofs.Validator.LastWrite
import Emptiness.Proofs.Validator.OptionStore
import Emptiness.Proofs.Validator.Reordering
import Emptiness.Proofs.Validator.Notation
import Emptiness.Proofs.Validator.Afterwards
import Emptiness.Proofs.Validator.Presented
import Emptiness.Proofs.Verdict.Composite
import Emptiness.Proofs.Report.Words
import Emptiness.Proofs.RuleName.Spelling
import Emptiness.Proofs.Report.Literal
import Emptiness.Proofs.Report.Replacement
import Emptiness.Proofs.Report.OptionsFile
import Emptiness.Proofs.Verdict.BlankText
