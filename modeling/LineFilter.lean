import LineFilter.Main
import LineFilter.Proofs.Comparison.Coherence
import LineFilter.Proofs.Comparison.Consistency
import LineFilter.Proofs.Comparison.Numbers
import LineFilter.Proofs.Environment.References
import LineFilter.Proofs.Environment.Resolution
import LineFilter.Proofs.Evaluation.Prefix
import LineFilter.Proofs.Evaluation.Range
import LineFilter.Proofs.Evaluation.Safety
import LineFilter.Proofs.Run.Policies
import LineFilter.Proofs.Text.Decoding
import LineFilter.Proofs.Script.Acceptance
import LineFilter.Proofs.Script.Reprint
import LineFilter.Proofs.Run.Reading
import LineFilter.Proofs.Text.Json
import LineFilter.Proofs.Text.Slice
import LineFilter.Proofs.Run.Modes
import LineFilter.Proofs.Script.Spacing
import LineFilter.Proofs.Number.Exactness
import LineFilter.Proofs.Time.Coercion
import LineFilter.Proofs.Time.Agreement
import LineFilter.Proofs.Time.Midnight
import LineFilter.Proofs.Time.Filling
import LineFilter.Proofs.Time.Chronology
import LineFilter.Proofs.Script.Joining
import LineFilter.Proofs.Script.Blame
import LineFilter.Proofs.Script.Failure
import LineFilter.Proofs.Script.Diagnosis
import LineFilter.Proofs.Number.Words
import LineFilter.Proofs.CommandLine.ExitCode
import LineFilter.Proofs.Script.Quoting
import LineFilter.Proofs.Script.Progress
