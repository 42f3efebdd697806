import DataContract.Document
import DataContract.Duration
import DataContract.Entries
import DataContract.Issue
import DataContract.Json
import DataContract.Mapping.Fit
import DataContract.Mapping.Storing
import DataContract.Number.Binary
import DataContract.Number.Decimal
import DataContract.Pattern.CharClass
import DataContract.Pattern.Expr
import DataContract.Pattern.Matching
import DataContract.Pattern.Property
import DataContract.Pattern.Reader
import DataContract.Pattern.Resolve
import DataContract.Pattern.Tree
import DataContract.Schema.Loading
import DataContract.Proofs.Entries
import DataContract.Proofs.Fallible
import DataContract.Proofs.Mapping.Compatibility
import DataContract.Proofs.Mapping.Outcome
import DataContract.Proofs.Mapping.Reading
import DataContract.Proofs.Mapping.RoundTrip
import DataContract.Proofs.Number.Exact
import DataContract.Proofs.Schema.Acceptance
import DataContract.Proofs.Schema.Induction
import DataContract.Proofs.Schema.ValueSet
import DataContract.Proofs.Target.Filling
import DataContract.Proofs.Target.Typing
import DataContract.Proofs.Value.Sameness
import DataContract.Schema.Basic
import DataContract.Schema.Descriptor
import DataContract.Schema.Validation
import DataContract.Target.Content
import DataContract.Target.Filling
import DataContract.Target.Shape
import DataContract.Text
import DataContract.Text.Unicode.Age
import DataContract.Text.Unicode.Category
import DataContract.Text.Unicode.Division
import DataContract.Text.Unicode.Folding
import DataContract.Text.Unicode.Property
import DataContract.Text.Unicode.Script
import DataContract.Readers
import DataContract.Readers.Standard
import DataContract.Timestamp
import DataContract.Uri
import DataContract.Uri.Path
import DataContract.Uri.Host
import DataContract.Value
import DataContract.Yaml.Composition
import DataContract.Yaml.Basic
import DataContract.Yaml.Cursor
import DataContract.Yaml.Node
import DataContract.Yaml.Resolution
import DataContract.Yaml.Scalar
import DataContract.Yaml.Scanner
import DataContract.Yaml.Token
import DataContract.Proofs.Number.Rounding
import DataContract.Proofs.Schema.Rewriting
import DataContract.Proofs.Schema.Documents
import DataContract.Proofs.Schema.Reloading
import DataContract.Proofs.Schema.Identity
import DataContract.Proofs.Text
import DataContract.Proofs.Duration.Grammar
import DataContract.Proofs.Duration.Reading
import DataContract.Proofs.Duration.Sum
import DataContract.Proofs.Issue.Path
import DataContract.Proofs.Schema.Places
import DataContract.Proofs.Schema.Pointing
import DataContract.Proofs.Schema.Vocabulary
import DataContract.Proofs.Mapping.Overlay
import DataContract.Proofs.Mapping.Absorption
import DataContract.Proofs.Target.Veiling
import DataContract.Proofs.Mapping.Veiled
import DataContract.Proofs.Mapping.Written
import DataContract.Proofs.Mapping.Success
import DataContract.Proofs.Mapping.Halting
import DataContract.Proofs.Target.Staging
import DataContract.Proofs.Duration.Case
import DataContract.Proofs.Pointer
import DataContract.Proofs.Schema.Locating
import DataContract.Proofs.Number.Monotone
import DataContract.Proofs.Schema.Bounds
import DataContract.Proofs.Schema.Respelling
import DataContract.Proofs.Pattern.Occurrence
import DataContract.Proofs.Schema.Texts
import DataContract.Proofs.Pattern.Language
import DataContract.Proofs.Duration.Published
import DataContract.Proofs.Duration.Forms
import DataContract.Proofs.Number.Narrowing
import DataContract.Proofs.Mapping.Ranges
import DataContract.Proofs.Yaml.Conversion
import DataContract.Proofs.Schema.Combination
