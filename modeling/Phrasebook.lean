import Phrasebook.Catalog
import Phrasebook.Code.Accessor
import Phrasebook.Code.Layout
import Phrasebook.Code.Render
import Phrasebook.Code.StringExpression
import Phrasebook.CommandLine.Arguments
import Phrasebook.CommandLine.Execution
import Phrasebook.Configuration
import Phrasebook.Diagnostic
import Phrasebook.Document.Basic
import Phrasebook.Document.Character
import Phrasebook.Document.Json
import Phrasebook.Document.Scalar
import Phrasebook.Document.Toml.Moment
import Phrasebook.Document.Toml.Number
import Phrasebook.Document.Toml.Quoted
import Phrasebook.Document.Toml.Reader
import Phrasebook.Document.Toml.Table
import Phrasebook.Document.Toml.Word
import Phrasebook.Document.Yaml.BlockScalar
import Phrasebook.Document.Yaml.Cursor
import Phrasebook.Document.Yaml.Directive
import Phrasebook.Document.Yaml.Gap
import Phrasebook.Document.Yaml.Node
import Phrasebook.Document.Yaml.PlainScalar
import Phrasebook.Document.Yaml.QuotedScalar
import Phrasebook.Document.Yaml.Reader
import Phrasebook.Document.Yaml.Tag
import Phrasebook.Document.Yaml.Token
import Phrasebook.Document.Yaml.TokenDraft
import Phrasebook.Document.Yaml.TokenList
import Phrasebook.FileTree
import Phrasebook.Identifier
import Phrasebook.LanguageTag
import Phrasebook.Locale
import Phrasebook.Main
import Phrasebook.Naming
import Phrasebook.Path
import Phrasebook.Placeholder.ArgumentTable
import Phrasebook.Placeholder.Basic
import Phrasebook.Placeholder.Scanner
import Phrasebook.Plural.Code
import Phrasebook.Plural.Evaluation
import Phrasebook.Plural.Expression
import Phrasebook.Plural.Reader
import Phrasebook.Plural.Rule
import Phrasebook.Plural.Token
import Phrasebook.Plural.Typing
import Phrasebook.Proofs.Catalog.Accounting
import Phrasebook.Proofs.Catalog.Binding
import Phrasebook.Proofs.Catalog.Build
import Phrasebook.Proofs.Catalog.Consistency
import Phrasebook.Proofs.Catalog.FinalNames
import Phrasebook.Proofs.Catalog.IndexLimit
import Phrasebook.Proofs.Catalog.Isolation
import Phrasebook.Proofs.Catalog.Merging
import Phrasebook.Proofs.Catalog.Outcomes
import Phrasebook.Proofs.Catalog.Overrides
import Phrasebook.Proofs.Catalog.Repetition
import Phrasebook.Proofs.Catalog.Transformation
import Phrasebook.Proofs.Code.Acceptance
import Phrasebook.Proofs.Code.Accessor
import Phrasebook.Proofs.Code.AccessorBody
import Phrasebook.Proofs.Code.Blocks
import Phrasebook.Proofs.Code.BundleModule
import Phrasebook.Proofs.Code.Dependence
import Phrasebook.Proofs.Code.Hygiene
import Phrasebook.Proofs.Code.Indentation
import Phrasebook.Proofs.Code.Items
import Phrasebook.Proofs.Code.Layout
import Phrasebook.Proofs.Code.LineText
import Phrasebook.Proofs.Code.Members
import Phrasebook.Proofs.Code.Outline
import Phrasebook.Proofs.Code.PluralFunction
import Phrasebook.Proofs.Code.Quantity
import Phrasebook.Proofs.Code.Render
import Phrasebook.Proofs.Code.Selection
import Phrasebook.Proofs.Code.StringExpression
import Phrasebook.Proofs.Code.StringValue
import Phrasebook.Proofs.Configuration
import Phrasebook.Proofs.FileTree
import Phrasebook.Proofs.FileTree.Descent
import Phrasebook.Proofs.FileTree.Writing
import Phrasebook.Proofs.Generated.Acceptance
import Phrasebook.Proofs.Generated.Execution
import Phrasebook.Proofs.Generated.FreeName
import Phrasebook.Proofs.Generated.Lexeme
import Phrasebook.Proofs.Generated.Literal
import Phrasebook.Proofs.Generated.Module
import Phrasebook.Proofs.Generated.ModuleReading
import Phrasebook.Proofs.Generated.Reading
import Phrasebook.Proofs.Generated.Term
import Phrasebook.Proofs.Generated.TextValue
import Phrasebook.Proofs.Identifier
import Phrasebook.Proofs.Identifier.SnakeCase
import Phrasebook.Proofs.Locale
import Phrasebook.Proofs.Path
import Phrasebook.Proofs.Path.Below
import Phrasebook.Proofs.Path.Directories
import Phrasebook.Proofs.Placeholder.Consistency
import Phrasebook.Proofs.Placeholder.Declaration
import Phrasebook.Proofs.Placeholder.Recognition
import Phrasebook.Proofs.Placeholder.Resolution
import Phrasebook.Proofs.Placeholder.RoundTrip
import Phrasebook.Proofs.Placeholder.Scanner
import Phrasebook.Proofs.Placeholder.Shape
import Phrasebook.Proofs.Placeholder.SharedNames
import Phrasebook.Proofs.Plural.CodeExecution
import Phrasebook.Proofs.Plural.CodeReading
import Phrasebook.Proofs.Plural.FirstMisfit
import Phrasebook.Proofs.Plural.Grammar
import Phrasebook.Proofs.Plural.GrammarCompleteness
import Phrasebook.Proofs.Plural.Layout
import Phrasebook.Proofs.Plural.LiteralWidth
import Phrasebook.Proofs.Plural.LongestWord
import Phrasebook.Proofs.Plural.Lookahead
import Phrasebook.Proofs.Plural.Meaning
import Phrasebook.Proofs.Plural.Range
import Phrasebook.Proofs.Plural.Spacing
import Phrasebook.Proofs.Plural.TypeRules
import Phrasebook.Proofs.Plural.ViablePrefix
import Phrasebook.Proofs.Properties.Declarations
import Phrasebook.Proofs.Properties.DecodingSteps
import Phrasebook.Proofs.Properties.Faults
import Phrasebook.Proofs.Properties.Layout
import Phrasebook.Proofs.Properties.LineAccount
import Phrasebook.Proofs.Properties.LogicalLine
import Phrasebook.Proofs.Properties.Notation
import Phrasebook.Proofs.Publication
import Phrasebook.Proofs.Publication.Alike
import Phrasebook.Proofs.Publication.Outcome
import Phrasebook.Proofs.Report
import Phrasebook.Proofs.Resources
import Phrasebook.Proofs.Resources.Problems
import Phrasebook.Proofs.Result
import Phrasebook.Proofs.Session
import Phrasebook.Proofs.TargetName
import Phrasebook.Proofs.Text.Encoding
import Phrasebook.Proofs.Text.LetterCase
import Phrasebook.Proofs.Text.Lines
import Phrasebook.Proofs.Text.Quoted
import Phrasebook.Proofs.Text.Separation
import Phrasebook.Proofs.Validation.AccessorNames
import Phrasebook.Proofs.Validation.Bundle
import Phrasebook.Proofs.Validation.FileNames
import Phrasebook.Proofs.Validation.Findings
import Phrasebook.Proofs.Validation.LocaleNames
import Phrasebook.Proofs.Validation.Locales
import Phrasebook.Proofs.Validation.ModuleDirectories
import Phrasebook.Proofs.Validation.Names
import Phrasebook.Proofs.Validation.Obstacles
import Phrasebook.Proofs.Validation.Output
import Phrasebook.Proofs.Validation.Rules
import Phrasebook.Proofs.Validation.Target
import Phrasebook.Properties.Declaration
import Phrasebook.Properties.Escape
import Phrasebook.Properties.LogicalLine
import Phrasebook.Properties.Reader
import Phrasebook.Publication
import Phrasebook.Report
import Phrasebook.Resources
import Phrasebook.SourceSet
import Phrasebook.SourceSet.Decoding
import Phrasebook.TargetName
import Phrasebook.Text.CodeRun
import Phrasebook.Text.Decimal
import Phrasebook.Text.Encoding
import Phrasebook.Text.HiddenTable
import Phrasebook.Text.LetterCase
import Phrasebook.Text.LetterTables
import Phrasebook.Text.Lines
import Phrasebook.Text.Quoted
import Phrasebook.Text.Separation
import Phrasebook.Text.Whitespace
import Phrasebook.Transformer
import Phrasebook.Validation.Bundle
import Phrasebook.Validation.Locales
import Phrasebook.Validation.Names
import Phrasebook.Validation.Output
import Phrasebook.Validation.Rules
