import HeaderBindings.Artifact
import HeaderBindings.Binding.Harvest
import HeaderBindings.Binding.Model
import HeaderBindings.Binding.Pass
import HeaderBindings.Binding.Resolve
import HeaderBindings.Binding.TypeView
import HeaderBindings.Binding.Wanted
import HeaderBindings.C.Attribute
import HeaderBindings.C.BasicType
import HeaderBindings.C.BuiltinFunction
import HeaderBindings.C.Comment
import HeaderBindings.C.Compatible
import HeaderBindings.C.Condition
import HeaderBindings.C.Constant
import HeaderBindings.C.Declaration
import HeaderBindings.C.Diagnostic
import HeaderBindings.C.Expansion
import HeaderBindings.C.Expression
import HeaderBindings.C.Feature
import HeaderBindings.C.GivenMacro
import HeaderBindings.C.Glyph
import HeaderBindings.C.Grammar
import HeaderBindings.C.Initializer
import HeaderBindings.C.Language
import HeaderBindings.C.Layout
import HeaderBindings.C.Lexeme
import HeaderBindings.C.Literal
import HeaderBindings.C.Macro
import HeaderBindings.C.Option
import HeaderBindings.C.Packing
import HeaderBindings.C.Position
import HeaderBindings.C.Reader
import HeaderBindings.C.SearchPath
import HeaderBindings.C.Source
import HeaderBindings.C.Target
import HeaderBindings.C.Token
import HeaderBindings.C.Type
import HeaderBindings.C.Unit
import HeaderBindings.C.WarningName
import HeaderBindings.C.Word
import HeaderBindings.CommandLine.Arguments
import HeaderBindings.CommandLine.CompilerArguments
import HeaderBindings.CommandLine.Help
import HeaderBindings.CommandLine.Options
import HeaderBindings.DocComment
import HeaderBindings.Dump
import HeaderBindings.File.Error
import HeaderBindings.File.Path
import HeaderBindings.File.Scope
import HeaderBindings.File.Tree
import HeaderBindings.Name
import HeaderBindings.Number.Binary64
import HeaderBindings.Number.BinaryFloat
import HeaderBindings.Number.Numeral
import HeaderBindings.Number.Shortest
import HeaderBindings.Program
import HeaderBindings.Ruby.Block
import HeaderBindings.Ruby.Type
import HeaderBindings.Settings
import HeaderBindings.SettingsFile
import HeaderBindings.Shell
import HeaderBindings.Shell.Arithmetic
import HeaderBindings.Shell.Builtin
import HeaderBindings.Shell.Command
import HeaderBindings.Shell.Condition
import HeaderBindings.Shell.Evaluation
import HeaderBindings.Shell.Field
import HeaderBindings.Shell.Filter
import HeaderBindings.Shell.Format
import HeaderBindings.Shell.Pattern
import HeaderBindings.Shell.Reader
import HeaderBindings.Shell.Regex
import HeaderBindings.Shell.State
import HeaderBindings.Shell.StreamEdit
import HeaderBindings.Shell.Utility
import HeaderBindings.Symbols
import HeaderBindings.SystemDirectories
import HeaderBindings.Text.Blank
import HeaderBindings.Text.Digit
import HeaderBindings.Text.Hidden
import HeaderBindings.Text.Letter
import HeaderBindings.Text.LetterTables
import HeaderBindings.Text.Line
import HeaderBindings.Text.Literal
import HeaderBindings.Yaml.Cursor
import HeaderBindings.Yaml.Fault
import HeaderBindings.Yaml.Kind
import HeaderBindings.Yaml.Meaning
import HeaderBindings.Yaml.Node
import HeaderBindings.Yaml.Plain
import HeaderBindings.Yaml.Quoted
import HeaderBindings.Yaml.Scalar
import HeaderBindings.Yaml.ScalarMeaning
import HeaderBindings.Yaml.ScalarText
import HeaderBindings.Yaml.Token
import HeaderBindings.Yaml.Value
import HeaderBindings.Yaml.Writer
import HeaderBindings.Main
import HeaderBindings.Proofs.Visit
import HeaderBindings.Proofs.Stop
import HeaderBindings.Proofs.Reference
import HeaderBindings.Proofs.DefinitionOrder
import HeaderBindings.Proofs.FileLexeme
import HeaderBindings.Proofs.HarvestedComment
import HeaderBindings.Proofs.ParameterList
import HeaderBindings.Proofs.DirectComment
import HeaderBindings.Proofs.SharedComment
import HeaderBindings.Proofs.Blacklist
import HeaderBindings.Proofs.DeclaredArtifact
import HeaderBindings.Proofs.ReferenceOrigin
import HeaderBindings.Proofs.FieldOffset
import HeaderBindings.Proofs.PrefixIndependence
import HeaderBindings.Proofs.DumpedModel
import HeaderBindings.Proofs.CommentText
import HeaderBindings.Proofs.ModuleBlock
import HeaderBindings.Proofs.AdjustedParameter
import HeaderBindings.Proofs.EnumValue
import HeaderBindings.Proofs.Escape
import HeaderBindings.Proofs.Destination
import HeaderBindings.Proofs.ReportedFailure
import HeaderBindings.Proofs.CommentSection
import HeaderBindings.Proofs.SugaredType
import HeaderBindings.Proofs.TypeText
import HeaderBindings.Proofs.RubySyntax
import HeaderBindings.Proofs.RubyName
import HeaderBindings.Proofs.RubyLiteral
import HeaderBindings.Proofs.TypeLabel
import HeaderBindings.Proofs.ValidBlock
import HeaderBindings.Proofs.NameToken
import HeaderBindings.Proofs.MemberName
import HeaderBindings.Proofs.PrefixSet
import HeaderBindings.Proofs.DoxygenLayout
import HeaderBindings.Proofs.ConstantPrefix
import HeaderBindings.Proofs.HeaderScope
import HeaderBindings.Proofs.ListEntry
import HeaderBindings.Proofs.NormalPath
import HeaderBindings.Proofs.HeaderName
import HeaderBindings.Proofs.CompilerFlag
import HeaderBindings.Proofs.SettingsField
import HeaderBindings.Proofs.ValueEquality
import HeaderBindings.Proofs.SettingsDocument
import HeaderBindings.Proofs.SettingsOrigin
import HeaderBindings.Proofs.FirstOccurrence
import HeaderBindings.Proofs.DirectoryList
import HeaderBindings.Proofs.FlagEntry
import HeaderBindings.Proofs.UnspelledType
