import DocQuery.Binary64
import DocQuery.Cancellation
import DocQuery.Config
import DocQuery.Config.Source
import DocQuery.Cursor
import DocQuery.Decimal
import DocQuery.Diagnostic
import DocQuery.Document
import DocQuery.Error
import DocQuery.Event
import DocQuery.Execution
import DocQuery.FieldPath
import DocQuery.Fields
import DocQuery.Json
import DocQuery.Json.Position
import DocQuery.Json.Reader
import DocQuery.Json.Writer
import DocQuery.Like
import DocQuery.Logging
import DocQuery.Power
import DocQuery.Pull
import DocQuery.Query
import DocQuery.Query.OfJson
import DocQuery.Query.Order
import DocQuery.Query.Plan
import DocQuery.Query.Projection
import DocQuery.Regex
import DocQuery.Regex.Ast
import DocQuery.Regex.Fault
import DocQuery.Regex.Matcher
import DocQuery.Regex.Parser
import DocQuery.Regex.Pattern
import DocQuery.Regex.Size
import DocQuery.Selector
import DocQuery.Selector.OfJson
import DocQuery.Session
import DocQuery.Store
import DocQuery.Store.Journal
import DocQuery.Store.Memory
import DocQuery.Store.Scripted
import DocQuery.Summary
import DocQuery.Telemetry
import DocQuery.Toml
import DocQuery.Toml.Reader
import DocQuery.Toml.Scalar
import DocQuery.Toml.Table
import DocQuery.Tree
import DocQuery.Unicode.Age
import DocQuery.Unicode.Break
import DocQuery.Unicode.CaseFolding
import DocQuery.Unicode.Category
import DocQuery.Unicode.CodePointSet
import DocQuery.Unicode.Property
import DocQuery.Unicode.PropertyName
import DocQuery.Unicode.Script
import DocQuery.Utf8
import DocQuery.Value
import DocQuery.Value.Collation
import DocQuery.Value.OfText
import DocQuery.Proofs.Answer
import DocQuery.Proofs.Scanning
import DocQuery.Proofs.Stepping
import DocQuery.Proofs.Due
import DocQuery.Proofs.Runs
import DocQuery.Proofs.Delivery
import DocQuery.Proofs.KeyedStore
import DocQuery.Proofs.IdLookup
import DocQuery.Proofs.Cancelling
import DocQuery.Proofs.Collation
import DocQuery.Proofs.Sorting
import DocQuery.Proofs.NaturalOrder
import DocQuery.Proofs.SelectorEntries
import DocQuery.Proofs.OperatorMeaning
import DocQuery.Proofs.SelectorMeaning
import DocQuery.Proofs.Reordering
import DocQuery.Proofs.ReorderedSelectors
import DocQuery.Proofs.KeyOrder
import DocQuery.Proofs.Recording
import DocQuery.Proofs.Calling
import DocQuery.Proofs.Accounting
import DocQuery.Proofs.WriteHistory
import DocQuery.Proofs.OutputFields
import DocQuery.Proofs.WholeNumbers
import DocQuery.Proofs.SelectorGrammar
import DocQuery.Proofs.ZeroSigns
import DocQuery.Proofs.SpelledSelectors
import DocQuery.Proofs.NumberSpelling
import DocQuery.Proofs.Isolation
import DocQuery.Proofs.ValueOrder
import DocQuery.Proofs.ValueEquality
import DocQuery.Proofs.BareDocuments
import DocQuery.Proofs.ExportImport
import DocQuery.Proofs.Wildcards
import DocQuery.Proofs.SelectorParts
import DocQuery.Proofs.Limits
import DocQuery.Proofs.FirstFault
import DocQuery.Proofs.Blame
import DocQuery.Proofs.WellFormedQueries
import DocQuery.Proofs.SubDocuments
import DocQuery.Proofs.KeptParts
import DocQuery.Proofs.ProjectionLaws
import DocQuery.Proofs.ProjectedQueries
import DocQuery.Proofs.MatchCounts
import DocQuery.Proofs.PullCounts
import DocQuery.Proofs.PathText
import DocQuery.Proofs.NestedConditions
import DocQuery.Proofs.CanonicalJson
import DocQuery.Proofs.OperatorAlgebra
import DocQuery.Proofs.BytePositions
import DocQuery.Proofs.FieldEdits
import DocQuery.Proofs.SpelledPaths
import DocQuery.Proofs.EditHistory
import DocQuery.Proofs.ReadTrees
import DocQuery.Proofs.SessionSteps
import DocQuery.Proofs.SessionWrites
import DocQuery.Proofs.NamedCursors
import DocQuery.Proofs.SessionBooks
import DocQuery.Proofs.RegexSearch
import DocQuery.Proofs.RegexMeaning
import DocQuery.Proofs.WrittenNumbers
import DocQuery.Proofs.WrittenJson
