import Licensing.Catalog.Entry
import Licensing.Catalog.Scan
import Licensing.Comparer
import Licensing.Configuration.Basic
import Licensing.Configuration.Document
import Licensing.Expression.Basic
import Licensing.Expression.Equality
import Licensing.Expression.Policy
import Licensing.Json.Basic
import Licensing.Json.Expression
import Licensing.Json.Node
import Licensing.Json.Records
import Licensing.Matching.Divergence
import Licensing.Matching.Matcher
import Licensing.Matching.Program
import Licensing.Matching.Report
import Licensing.Matching.Search
import Licensing.Matching.Settings
import Licensing.Pattern.CharSet
import Licensing.Pattern.Engine
import Licensing.Pattern.Parser
import Licensing.Pattern.Regex
import Licensing.Proofs.AnyCharacters
import Licensing.Proofs.Augmentation
import Licensing.Proofs.Counts
import Licensing.Proofs.Derivation
import Licensing.Proofs.Equivalence
import Licensing.Proofs.Interpretation
import Licensing.Proofs.Layout
import Licensing.Proofs.LengthLimit
import Licensing.Proofs.Respelling
import Licensing.Proofs.Simulation
import Licensing.Proofs.Spans
import Licensing.Proofs.Table
import Licensing.Proofs.Descent
import Licensing.Proofs.Tree
import Licensing.Template.Body
import Licensing.Template.Event
import Licensing.Template.Node
import Licensing.Template.Piece
import Licensing.Template.Rendering
import Licensing.Template.Rule
import Licensing.Text.Comment
import Licensing.Text.Document
import Licensing.Text.Folding
import Licensing.Text.Normalize
import Licensing.Text.Spelling
import Licensing.Text.Token
import Licensing.Text.Tokenize
import Licensing.Text.Utf8
import Licensing.Text.Whitespace
import Licensing.Unicode.CaseOrbit
import Licensing.Unicode.Data.Age
import Licensing.Unicode.Data.Break
import Licensing.Unicode.Data.CaseOrbits
import Licensing.Unicode.Data.Category
import Licensing.Unicode.Data.Graphemes
import Licensing.Unicode.Data.Lowercase
import Licensing.Unicode.Data.Normalization
import Licensing.Unicode.Data.Property
import Licensing.Unicode.Data.Script
import Licensing.Unicode.Data.ScriptExtensions
import Licensing.Unicode.Grapheme
import Licensing.Unicode.Lowercase
import Licensing.Unicode.Normalization
import Licensing.Unicode.Property
import Licensing.Unicode.Table
import Licensing.Yaml.Scanner
import Licensing.Yaml.Token
import Licensing.Yaml.Value
import Licensing.Proofs.Blank
import Licensing.Proofs.Scanning
import Licensing.Catalog.Session
import Licensing.Proofs.Kept
import Licensing.Proofs.Quoting
import Licensing.Proofs.RoundTrip
import Licensing.Proofs.Ascii
import Licensing.Proofs.Fragments
import Licensing.Proofs.Joints
import Licensing.Proofs.Rendered
import Licensing.Proofs.Segments
import Licensing.Proofs.FixedText
import Licensing.Proofs.Regions
import Licensing.Proofs.Slices
import Licensing.Proofs.Lines
import Licensing.Proofs.Moved
import Licensing.Proofs.Surroundings
import Licensing.Proofs.Likeness
import Licensing.Proofs.Commented
import Licensing.Proofs.Renaming
import Licensing.Proofs.Reordering
import Licensing.Proofs.Verdicts
import Licensing.Proofs.Overwriting
import Licensing.Proofs.RuleBodies
import Licensing.Proofs.OverwrittenRules
import Licensing.Proofs.StrippedRules
import Licensing.Proofs.Respacing
import Licensing.Proofs.Failure
import Licensing.Proofs.PlainText
import Licensing.Proofs.Represented
import Licensing.Proofs.Witnessed
import Licensing.Proofs.Furthest
import Licensing.Proofs.Settling
import Licensing.Proofs.Progress
import Licensing.Proofs.Preferred
import Licensing.Proofs.CharacterTables
import Licensing.Proofs.Composition
import Licensing.Proofs.Fillers
import Licensing.Proofs.FoldedLines
import Licensing.Proofs.FillerJoints
import Licensing.Proofs.FramedRules
import Licensing.Proofs.DefaultWords
import Licensing.Proofs.Stripping
import Licensing.Proofs.Turns
import Licensing.Proofs.Places
import Licensing.Proofs.Excerpts
import Licensing.Proofs.LineByLine
import Licensing.Proofs.TokenTexts
import Licensing.Proofs.EventPlaces
import Licensing.Proofs.PlainMarks
import Licensing.Proofs.Refusal
import Licensing.Proofs.Balance
import Licensing.Proofs.BuiltRules
import Licensing.Proofs.Choices
import Licensing.Proofs.JsonReading
import Licensing.Proofs.NormalizedSpans
import Licensing.Proofs.Unambiguous
import Licensing.Proofs.LossyDecoding
import Licensing.Proofs.ByteSources
import Licensing.Proofs.RuleFields
import Licensing.Proofs.RegionMarkers
import Licensing.Proofs.WellFormed
