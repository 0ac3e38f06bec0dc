import DocPath.Config
import DocPath.Error
import DocPath.Event
import DocPath.Fault
import DocPath.Filter.Basic
import DocPath.Filter.Criterion
import DocPath.Filter.Inspect
import DocPath.Filter.Pattern
import DocPath.Filter.Predicate
import DocPath.Filter.Reader
import DocPath.Json.Number
import DocPath.Json.Printer
import DocPath.Json.Reader
import DocPath.Json.Tree
import DocPath.Number.Binary64
import DocPath.Number.Decimal
import DocPath.Number.Integer
import DocPath.Number.Layout
import DocPath.Number.Shortest
import DocPath.Path.Bracket
import DocPath.Path.Compiled
import DocPath.Path.Fragment
import DocPath.Path.Read
import DocPath.Path.Reader
import DocPath.Path.Step
import DocPath.Path.Words
import DocPath.Proofs.Filter.Acceptance
import DocPath.Proofs.Filter.Anchoring
import DocPath.Proofs.Filter.Embedding
import DocPath.Proofs.Filter.Grammar
import DocPath.Proofs.Filter.Inline
import DocPath.Proofs.Filter.IntegerComparison
import DocPath.Proofs.Filter.Numbers
import DocPath.Proofs.Filter.NumericOrder
import DocPath.Proofs.Filter.Padding
import DocPath.Proofs.Filter.Places
import DocPath.Proofs.Filter.Refusal
import DocPath.Proofs.Filter.Tokens
import DocPath.Proofs.Filter.Trichotomy
import DocPath.Proofs.Number.Decimal
import DocPath.Proofs.Number.Integer
import DocPath.Proofs.Number.Range
import DocPath.Proofs.Number.Rounding
import DocPath.Proofs.Outcome
import DocPath.Proofs.Path.Binding
import DocPath.Proofs.Path.Closing
import DocPath.Proofs.Path.Compilation
import DocPath.Proofs.Path.Concatenation
import DocPath.Proofs.Path.Conjunction
import DocPath.Proofs.Path.Content
import DocPath.Proofs.Path.Counting
import DocPath.Proofs.Path.Definite
import DocPath.Proofs.Path.Descent
import DocPath.Proofs.Path.DocumentOrder
import DocPath.Proofs.Path.EntryPoints
import DocPath.Proofs.Path.Evaluation
import DocPath.Proofs.Path.Failure
import DocPath.Proofs.Path.Grammar
import DocPath.Proofs.Path.Located
import DocPath.Proofs.Path.Location
import DocPath.Proofs.Path.Naming
import DocPath.Proofs.Path.Padding
import DocPath.Proofs.Path.Position
import DocPath.Proofs.Path.Projection
import DocPath.Proofs.Path.Quotation
import DocPath.Proofs.Path.Refusal
import DocPath.Proofs.Path.Rendering
import DocPath.Proofs.Path.Reordering
import DocPath.Proofs.Path.Slicing
import DocPath.Proofs.Path.Spelling
import DocPath.Proofs.Path.Subtree
import DocPath.Proofs.Path.Tracing
import DocPath.Proofs.Path.Words
import DocPath.Proofs.Regex.ClassExtension
import DocPath.Proofs.Regex.Extension
import DocPath.Proofs.Regex.Framing
import DocPath.Proofs.Regex.Matching
import DocPath.Proofs.Regex.Meaning
import DocPath.Proofs.Regex.PatternExtension
import DocPath.Proofs.Text.Enclosed
import DocPath.Proofs.Text.Form
import DocPath.Proofs.Text.Quoted
import DocPath.Proofs.Text.Run
import DocPath.Proofs.Text.Stop
import DocPath.Proofs.Text.Trim
import DocPath.Proofs.Value.Conversion
import DocPath.Proofs.Value.Decoding
import DocPath.Proofs.Value.Equality
import DocPath.Proofs.Value.Reordering
import DocPath.Proofs.Value.Tree
import DocPath.Proofs.Workspace.Growth
import DocPath.Proofs.Workspace.History
import DocPath.Proofs.Workspace.Snapshot
import DocPath.Regex.CharSet
import DocPath.Regex.Compile
import DocPath.Regex.Engine
import DocPath.Regex.Expr
import DocPath.Regex.Matcher
import DocPath.Regex.Reader
import DocPath.Regex.Reader.ClassReader
import DocPath.Regex.Reader.Escape
import DocPath.Regex.Tree
import DocPath.Text.Inspect
import DocPath.Text.Quoted
import DocPath.Unicode.Blank
import DocPath.Unicode.CaseFolding
import DocPath.Unicode.GeneralCategory
import DocPath.Unicode.Property
import DocPath.Unicode.Query
import DocPath.Unicode.RangeTable
import DocPath.Unicode.Script
import DocPath.Unicode.Segmentation
import DocPath.Unicode.Tables.Age
import DocPath.Unicode.Tables.CaseFolding
import DocPath.Unicode.Tables.GeneralCategory
import DocPath.Unicode.Tables.Property
import DocPath.Unicode.Tables.Script
import DocPath.Unicode.Tables.Segmentation
import DocPath.Value.Basic
import DocPath.Value.Conversion
import DocPath.Workspace
