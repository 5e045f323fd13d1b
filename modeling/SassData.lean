import SassData.Import.Attributes
import SassData.Import.Session
import SassData.Main
import SassData.Proofs.Text.Trimming
import SassData.Proofs.Number.Layout
import SassData.Proofs.Json.Strings
import SassData.Proofs.Json.Numbers
import SassData.Proofs.Json.Members
import SassData.Proofs.Json.RoundTrip
import SassData.Proofs.Json.Ascii
import SassData.Proofs.Json.Grammar
import SassData.Proofs.Json.ScalarTexts
import SassData.Proofs.Json.ValueTexts
import SassData.Proofs.DataModule.Encoding
import SassData.Proofs.DataModule.Running
import SassData.Proofs.DataModule.Streams
import SassData.Proofs.Path.FileName
import SassData.Proofs.Path.Spelling
import SassData.Proofs.Scss.Atoms
import SassData.Proofs.Scss.Unambiguous
import SassData.Proofs.Scss.Enclosed
import SassData.Proofs.Scss.Literals
import SassData.Proofs.Scss.Keys
import SassData.Proofs.Scss.Lines
import SassData.Proofs.Scss.Strings
import SassData.Proofs.Scss.QuotedValues
import SassData.Proofs.Import.Loading
import SassData.Proofs.Import.CanonicalUrl
import SassData.Proofs.Import.ResolveThenRun
import SassData.Proofs.Import.HandOver
import SassData.Proofs.Import.Payload
import SassData.Proofs.Import.Strategies
import SassData.Proofs.Import.ResolvedModule
import SassData.Proofs.Import.FailureLine
import SassData.Proofs.Import.Candidates
import SassData.Proofs.Import.SearchPath
import SassData.Proofs.Import.FirstCandidate
import SassData.Proofs.Import.Extension
import SassData.Proofs.Import.Diagnostic
import SassData.Proofs.Import.Session
import SassData.Proofs.Json.Nesting
