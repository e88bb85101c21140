import ComponentQuery.Component.Record
import ComponentQuery.Component.Serial
import ComponentQuery.Component.Snapshot
import ComponentQuery.Json.Draft
import ComponentQuery.Json.Reader
import ComponentQuery.Json.Text
import ComponentQuery.Json.Value
import ComponentQuery.Matching.Acceptance
import ComponentQuery.Matching.Property
import ComponentQuery.Matching.Text
import ComponentQuery.Number.Binary64
import ComponentQuery.Number.Decimal
import ComponentQuery.Number.Literal
import ComponentQuery.Number.Notation
import ComponentQuery.Proofs.Component.DocumentOrder
import ComponentQuery.Proofs.Component.Normalisation
import ComponentQuery.Proofs.Component.SaveLoad
import ComponentQuery.Proofs.Component.Schema
import ComponentQuery.Proofs.Json.Documents
import ComponentQuery.Proofs.Json.Numerals
import ComponentQuery.Proofs.Json.Records
import ComponentQuery.Proofs.Json.RoundTrip
import ComponentQuery.Proofs.Json.Scalars
import ComponentQuery.Proofs.Json.Validity
import ComponentQuery.Proofs.Matching.Addresses
import ComponentQuery.Proofs.Matching.CaseFolding
import ComponentQuery.Proofs.Matching.Equality
import ComponentQuery.Proofs.Matching.Position
import ComponentQuery.Proofs.Matching.Satisfaction
import ComponentQuery.Proofs.Number.Conversion
import ComponentQuery.Proofs.Number.DigitByDigit
import ComponentQuery.Proofs.Number.Digits
import ComponentQuery.Proofs.Number.Grammar
import ComponentQuery.Proofs.Number.Nearest
import ComponentQuery.Proofs.Number.Rounding
import ComponentQuery.Proofs.Query.Accounting
import ComponentQuery.Proofs.Query.ByTag
import ComponentQuery.Proofs.Query.Conjunction
import ComponentQuery.Proofs.Query.Selection
import ComponentQuery.Proofs.Regex.Agreement
import ComponentQuery.Proofs.Regex.FlagGroup
import ComponentQuery.Proofs.Regex.FlagMembers
import ComponentQuery.Proofs.Regex.Leftmost
import ComponentQuery.Proofs.Regex.Reachability
import ComponentQuery.Proofs.Regex.Rest
import ComponentQuery.Proofs.Regex.Runs
import ComponentQuery.Proofs.Regex.Similarity
import ComponentQuery.Proofs.Regex.StartOfMatch
import ComponentQuery.Proofs.Regex.Trials
import ComponentQuery.Proofs.Selector.Addressing
import ComponentQuery.Proofs.Selector.BareTokens
import ComponentQuery.Proofs.Selector.CaseLetters
import ComponentQuery.Proofs.Selector.Composition
import ComponentQuery.Proofs.Selector.Continuation
import ComponentQuery.Proofs.Selector.Cuts
import ComponentQuery.Proofs.Selector.DiagnosticForm
import ComponentQuery.Proofs.Selector.Exactness
import ComponentQuery.Proofs.Selector.Extension
import ComponentQuery.Proofs.Selector.Failure
import ComponentQuery.Proofs.Selector.Grammar
import ComponentQuery.Proofs.Selector.Invariants
import ComponentQuery.Proofs.Selector.Locality
import ComponentQuery.Proofs.Selector.Location
import ComponentQuery.Proofs.Selector.Printing
import ComponentQuery.Proofs.Selector.Progress
import ComponentQuery.Proofs.Selector.RegexLiteral
import ComponentQuery.Proofs.Selector.Scan
import ComponentQuery.Proofs.Selector.SerialForm
import ComponentQuery.Proofs.Selector.Settings
import ComponentQuery.Proofs.Selector.Unambiguity
import ComponentQuery.Proofs.Text.Run
import ComponentQuery.Proofs.Unicode.LowerCase
import ComponentQuery.Proofs.Unicode.UpperCase
import ComponentQuery.Query.Engine
import ComponentQuery.Query.Event
import ComponentQuery.Query.Session
import ComponentQuery.Regex
import ComponentQuery.Regex.Automaton
import ComponentQuery.Regex.Backtracking
import ComponentQuery.Regex.ClassReading
import ComponentQuery.Regex.ClassSet
import ComponentQuery.Regex.Matcher
import ComponentQuery.Regex.Pattern
import ComponentQuery.Regex.PatternError
import ComponentQuery.Regex.PatternReading
import ComponentQuery.Regex.Plan
import ComponentQuery.Regex.Subject
import ComponentQuery.Selector.Comparison
import ComponentQuery.Selector.Config
import ComponentQuery.Selector.Diagnostic
import ComponentQuery.Selector.Error
import ComponentQuery.Selector.Operator
import ComponentQuery.Selector.Predicate
import ComponentQuery.Selector.Reading
import ComponentQuery.Selector.Serial
import ComponentQuery.Selector.Token
import ComponentQuery.Unicode.BinaryProperty
import ComponentQuery.Unicode.Blank
import ComponentQuery.Unicode.Case
import ComponentQuery.Unicode.CaseRun
import ComponentQuery.Unicode.Category
import ComponentQuery.Unicode.Fold
import ComponentQuery.Unicode.Printable
import ComponentQuery.Unicode.Property
import ComponentQuery.Unicode.RangeTable
import ComponentQuery.Unicode.Script
