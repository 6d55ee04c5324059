import LeastGrant.Analysis.Finding
import LeastGrant.Analysis.Join
import LeastGrant.Analysis.Resolve
import LeastGrant.Analysis.Run
import LeastGrant.Command.Arguments
import LeastGrant.Command.EnvFile
import LeastGrant.Command.Invocation
import LeastGrant.Command.Run
import LeastGrant.Command.Settings
import LeastGrant.Command.Work
import LeastGrant.Decimal.Double
import LeastGrant.Decimal.Shortest
import LeastGrant.Diagnostic
import LeastGrant.Entity.Association
import LeastGrant.Entity.Document
import LeastGrant.Entity.Extraction
import LeastGrant.Entity.Plural
import LeastGrant.Entity.Registry
import LeastGrant.Fault
import LeastGrant.Folder
import LeastGrant.Grants.Apply
import LeastGrant.Grants.Statement
import LeastGrant.Json.Basic
import LeastGrant.Json.Elements
import LeastGrant.Json.Printer
import LeastGrant.Json.Reader
import LeastGrant.Json.Relaxed
import LeastGrant.Json.Shown
import LeastGrant.Language
import LeastGrant.Main
import LeastGrant.Note
import LeastGrant.Path.Basic
import LeastGrant.Path.Glob
import LeastGrant.Project.Config
import LeastGrant.Project.ModelSources
import LeastGrant.Project.Sources
import LeastGrant.Report.Emoji
import LeastGrant.Report.EmojiNames
import LeastGrant.Report.Literal
import LeastGrant.Report.Markup
import LeastGrant.Report.Style
import LeastGrant.Report.StyledText
import LeastGrant.Report.Table
import LeastGrant.Report.Wrap
import LeastGrant.SourceFile
import LeastGrant.Text.Blank
import LeastGrant.Text.Cluster
import LeastGrant.Text.CodeRange
import LeastGrant.Text.Identifier
import LeastGrant.Text.Lines
import LeastGrant.Text.LowerCase
import LeastGrant.Text.Printable
import LeastGrant.Text.Quoted
import LeastGrant.Text.Split
import LeastGrant.Text.Unwritable
import LeastGrant.Text.Utf8
import LeastGrant.Text.Width
import LeastGrant.Tree.Document
import LeastGrant.Tree.Kind
import LeastGrant.Tree.Node
import LeastGrant.Tree.Place
import LeastGrant.Tree.Shape
import LeastGrant.Typing.Infer
import LeastGrant.Typing.Scope
import LeastGrant.Typing.StaticType
import LeastGrant.Usage.Document
import LeastGrant.Usage.Operation
import LeastGrant.Usage.Store
import LeastGrant.Usage.StoreFile
import LeastGrant.Proofs.Contribution
import LeastGrant.Proofs.Exactness
import LeastGrant.Proofs.CallOutcome
import LeastGrant.Proofs.RegistryGraph
import LeastGrant.Proofs.BuiltRegistry
import LeastGrant.Proofs.JoinCompletion
import LeastGrant.Proofs.RunStates
import LeastGrant.Proofs.MergedGrants
import LeastGrant.Proofs.MergedVisits
import LeastGrant.Proofs.ModuleFilter
import LeastGrant.Proofs.SavedRegistry
import LeastGrant.Proofs.LocalNames
import LeastGrant.Proofs.ImportedNames
import LeastGrant.Proofs.SavedAnalysis
import LeastGrant.Proofs.CheckedRun
import LeastGrant.Proofs.Routes
import LeastGrant.Proofs.SearchRoots
import LeastGrant.Proofs.FolderWalk
import LeastGrant.Proofs.GlobLanguage
import LeastGrant.Proofs.SourceListing
import LeastGrant.Proofs.ListedSources
import LeastGrant.Proofs.IncludedDirectories
import LeastGrant.Proofs.IncludeUnion
import LeastGrant.Proofs.DirectoryPatterns
import LeastGrant.Proofs.ExtendedConfig
import LeastGrant.Proofs.AbsolutePatterns
import LeastGrant.Proofs.Directories
import LeastGrant.Proofs.WrittenFiles
import LeastGrant.Proofs.JsonText
import LeastGrant.Proofs.JsonTokens
import LeastGrant.Proofs.JoinedTexts
import LeastGrant.Proofs.JsonScalars
import LeastGrant.Proofs.JsonGrammar
import LeastGrant.Proofs.RelaxedJson
import LeastGrant.Proofs.SavedStore
import LeastGrant.Proofs.CommandSteps
import LeastGrant.Proofs.SavedGrants
import LeastGrant.Proofs.InheritedPatterns
import LeastGrant.Proofs.InheritedSettings
import LeastGrant.Proofs.CircularExtends
import LeastGrant.Proofs.ExtendsPrecedence
import LeastGrant.Proofs.ExtractedReferences
import LeastGrant.Proofs.FiniteReading
import LeastGrant.Proofs.BoundedTypes
import LeastGrant.Proofs.MergeAlgebra
import LeastGrant.Proofs.MirroredGraph
import LeastGrant.Proofs.SplitGrants
import LeastGrant.Proofs.TreePlaces
import LeastGrant.Proofs.NestedScopes
import LeastGrant.Proofs.CoveringRoots
import LeastGrant.Proofs.StoreDocuments
import LeastGrant.Proofs.NullableTypes
import LeastGrant.Proofs.UntouchedFolder
import LeastGrant.Proofs.SourceOrder
