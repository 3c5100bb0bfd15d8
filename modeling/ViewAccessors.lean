import ViewAccessors.Accessor
import ViewAccessors.Generation
import ViewAccessors.Glob.CharacterClass
import ViewAccessors.Glob.Group
import ViewAccessors.Glob.Matching
import ViewAccessors.Glob.Pattern
import ViewAccessors.Json.Quoted
import ViewAccessors.Json.Reader
import ViewAccessors.Json.Token
import ViewAccessors.Markup.Cursor
import ViewAccessors.Markup.Document
import ViewAccessors.Markup.Error
import ViewAccessors.Markup.Lexeme
import ViewAccessors.Markup.LineTable
import ViewAccessors.Markup.Position
import ViewAccessors.Markup.Reference
import ViewAccessors.Markup.Tree
import ViewAccessors.NamespaceMap.Basic
import ViewAccessors.NamespaceMap.WellKnown
import ViewAccessors.Options.Basic
import ViewAccessors.Options.Document
import ViewAccessors.Options.Fault
import ViewAccessors.Options.Properties
import ViewAccessors.OrderedMap
import ViewAccessors.Resolution
import ViewAccessors.Scope
import ViewAccessors.Setting.AccessorStyle
import ViewAccessors.Setting.FileNaming
import ViewAccessors.Setting.Language
import ViewAccessors.Setting.Unknown
import ViewAccessors.Setting.Visibility
import ViewAccessors.Source.Code
import ViewAccessors.Source.Layout
import ViewAccessors.Source.Member
import ViewAccessors.Template.Basic
import ViewAccessors.Template.Library
import ViewAccessors.Template.Numeral
import ViewAccessors.Text.Blank
import ViewAccessors.Text.Indent
import ViewAccessors.Text.Letter
import ViewAccessors.Text.Number
import ViewAccessors.Text.Printable
import ViewAccessors.Text.Quoted
import ViewAccessors.Text.Ranges
import ViewAccessors.Text.Split
import ViewAccessors.TypeRef.Arguments
import ViewAccessors.TypeRef.Basic
import ViewAccessors.View
import ViewAccessors.Proofs.NamedElements
import ViewAccessors.Proofs.Accessors
import ViewAccessors.Proofs.Offences
import ViewAccessors.Proofs.Identifiers
import ViewAccessors.Proofs.Batches
import ViewAccessors.Proofs.Markup.Characters
import ViewAccessors.Proofs.Markup.Scanning
import ViewAccessors.Proofs.Markup.Writing
import ViewAccessors.Proofs.Markup.References
import ViewAccessors.Proofs.Markup.Lexemes
import ViewAccessors.Proofs.Markup.Reading
import ViewAccessors.Proofs.Markup.StartTags
import ViewAccessors.Proofs.Markup.Contents
import ViewAccessors.Proofs.Markup.Completeness
import ViewAccessors.Proofs.Markup.Soundness
import ViewAccessors.Proofs.Markup.Levels
import ViewAccessors.Proofs.Markup.Positions
import ViewAccessors.Proofs.Markup.Places
import ViewAccessors.Proofs.Markup.Slices
import ViewAccessors.Proofs.Markup.LineTables
import ViewAccessors.Proofs.Markup.Excerpts
import ViewAccessors.Proofs.Markup.Endings
import ViewAccessors.Proofs.Markup.Beginnings
import ViewAccessors.Proofs.Markup.Failures
import ViewAccessors.Proofs.Markup.Continuations
import ViewAccessors.Proofs.Markup.ReferenceLines
import ViewAccessors.Proofs.Markup.OpenConstructs
import ViewAccessors.Proofs.Markup.Decoding
import ViewAccessors.Proofs.Markup.Writable
import ViewAccessors.Proofs.Markup.Parsing
import ViewAccessors.Proofs.Trimming
import ViewAccessors.Proofs.TypeArguments.Parts
import ViewAccessors.Proofs.TypeArguments.Writing
import ViewAccessors.Proofs.TypeArguments.Reading
import ViewAccessors.Proofs.TypeArguments.Resolving
import ViewAccessors.Proofs.Qualifiers.Runs
import ViewAccessors.Proofs.Qualifiers.Trees
import ViewAccessors.Proofs.Qualifiers.Parts
import ViewAccessors.Proofs.Qualifiers.Scopes
import ViewAccessors.Proofs.Qualifiers.Types
import ViewAccessors.Proofs.Qualifiers.Documents
import ViewAccessors.Proofs.Qualifiers.Replacement
import ViewAccessors.Proofs.Globs.Matching
import ViewAccessors.Proofs.Globs.Patterns
import ViewAccessors.Proofs.Globs.Expressions
import ViewAccessors.Proofs.Globs.Translation
import ViewAccessors.Proofs.Globs.Agreement
import ViewAccessors.Proofs.Globs.Faults
import ViewAccessors.Proofs.Globs.Scanning
import ViewAccessors.Proofs.StandardFilters
import ViewAccessors.Proofs.ClassNames
import ViewAccessors.Proofs.FileNames
import ViewAccessors.Proofs.WrittenTypes
import ViewAccessors.Proofs.ExcludedDocuments
import ViewAccessors.Proofs.NamespaceMaps
import ViewAccessors.Proofs.TypeNamespaces
import ViewAccessors.Proofs.UnusedMappings
import ViewAccessors.Proofs.Json.Tokens
import ViewAccessors.Proofs.Json.Values
import ViewAccessors.Proofs.OptionsAsJson
import ViewAccessors.Proofs.Sources.LineBreaks
import ViewAccessors.Proofs.Sources.Literals
import ViewAccessors.Proofs.Sources.Templates
import ViewAccessors.Proofs.Sources.Rows
import ViewAccessors.Proofs.Sources.LookUps
import ViewAccessors.Proofs.Sources.Indentation
import ViewAccessors.Proofs.LookUpKeys
import ViewAccessors.Proofs.AssignedFields
import ViewAccessors.Proofs.ReachableErrors
import ViewAccessors.Proofs.Resemblance
import ViewAccessors.Proofs.IrrelevantMarkup
import ViewAccessors.Proofs.AttributeOrder
import ViewAccessors.Proofs.Latest
import ViewAccessors.Proofs.NamespaceHistories
import ViewAccessors.Proofs.RootAccessors
import ViewAccessors.Proofs.Json.Spellings
import ViewAccessors.Proofs.OptionFields
import ViewAccessors.Proofs.ChosenFields
import ViewAccessors.Proofs.ListItems
import ViewAccessors.Proofs.OptionsFromProperties
import ViewAccessors.Proofs.TypeArguments.Balance
import ViewAccessors.Proofs.TypeArguments.Scanning
