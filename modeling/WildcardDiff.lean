import WildcardDiff.Main
import WildcardDiff.Log.Channel
import WildcardDiff.Pattern.Escape
import WildcardDiff.Proofs.Regex.Writers
import WildcardDiff.Proofs.Pattern.Glyph
import WildcardDiff.Proofs.Regex.Agreement
import WildcardDiff.Proofs.Regex.CaseAgreement
import WildcardDiff.Proofs.Regex.AsciiAgreement
import WildcardDiff.Proofs.Settings.Layers
import WildcardDiff.Proofs.Settings.MergedView
import WildcardDiff.Proofs.Settings.Environment
import WildcardDiff.Proofs.Pattern.Escape
import WildcardDiff.Proofs.Pattern.Concatenation
import WildcardDiff.Proofs.Settings.Validation
import WildcardDiff.Proofs.Diff.Comparison
import WildcardDiff.Proofs.Diff.Account
import WildcardDiff.Proofs.Command.Ending
import WildcardDiff.Proofs.Command.Agreement
import WildcardDiff.Proofs.Pattern.LoneMember
import WildcardDiff.Proofs.Pattern.Visits
import WildcardDiff.Proofs.Regex.Captures
import WildcardDiff.Proofs.Pattern.Dos
import WildcardDiff.Proofs.Pattern.ElementCount
import WildcardDiff.Proofs.Pattern.RoundTrip
import WildcardDiff.Proofs.Settings.Writing
import WildcardDiff.Proofs.Text.Lines
import WildcardDiff.Proofs.Diff.Hint
import WildcardDiff.Proofs.Diff.Verdict
import WildcardDiff.Proofs.Diff.Layout
import WildcardDiff.Proofs.Pattern.CaseOptions
import WildcardDiff.Proofs.Pattern.KeptWildcards
import WildcardDiff.Proofs.Settings.Changes
import WildcardDiff.Proofs.Log.Program
import WildcardDiff.Proofs.Regex.SearchSource
import WildcardDiff.Proofs.Pattern.SetContents
