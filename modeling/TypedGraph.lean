import TypedGraph.Code.Ident
import TypedGraph.Code.Lexer
import TypedGraph.Code.Listing
import TypedGraph.Code.PathReader
import TypedGraph.Code.Printer
import TypedGraph.Code.SourceReader
import TypedGraph.Code.Tree
import TypedGraph.Code.Validity
import TypedGraph.Command.Arguments
import TypedGraph.Command.BuildStep
import TypedGraph.Command.Options
import TypedGraph.Command.Run
import TypedGraph.Command.Settings
import TypedGraph.Data.Decode
import TypedGraph.Data.JsonReader
import TypedGraph.Data.JsonWriter
import TypedGraph.Data.TomlReader
import TypedGraph.Data.TomlSyntax
import TypedGraph.Data.Tree
import TypedGraph.Files.Disk
import TypedGraph.Files.Path
import TypedGraph.Generate.Accessor
import TypedGraph.Generate.AccessorFile
import TypedGraph.Generate.Artifact
import TypedGraph.Generate.Config
import TypedGraph.Generate.EnumFile
import TypedGraph.Generate.Error
import TypedGraph.Generate.FacadeFile
import TypedGraph.Generate.Inline
import TypedGraph.Generate.ModuleIndex
import TypedGraph.Generate.Persist
import TypedGraph.Generate.PluginFile
import TypedGraph.Generate.Run
import TypedGraph.Generate.Scope
import TypedGraph.Generate.TaskFile
import TypedGraph.Generate.TimeFile
import TypedGraph.Layout
import TypedGraph.Main
import TypedGraph.Nodes.Action
import TypedGraph.Nodes.Counter
import TypedGraph.Nodes.Gate
import TypedGraph.Nodes.Graph
import TypedGraph.Nodes.Handover
import TypedGraph.Nodes.Interleaving
import TypedGraph.Nodes.Learner
import TypedGraph.Nodes.Query
import TypedGraph.Nodes.Resolution
import TypedGraph.Nodes.Store
import TypedGraph.Nodes.Value
import TypedGraph.Number.Double
import TypedGraph.Number.Reading
import TypedGraph.Number.Shortest
import TypedGraph.Sample.Calls
import TypedGraph.Sample.Classes
import TypedGraph.Sample.Clock
import TypedGraph.Sample.Color
import TypedGraph.Sample.Facade
import TypedGraph.Sample.Process
import TypedGraph.Sample.Tasks
import TypedGraph.Schema.Builder
import TypedGraph.Schema.Classifier
import TypedGraph.Schema.Diagnostic
import TypedGraph.Schema.Document
import TypedGraph.Schema.Model
import TypedGraph.Schema.Name
import TypedGraph.Schema.Property
import TypedGraph.Schema.Source
import TypedGraph.Schema.Written
import TypedGraph.Text.Blank
import TypedGraph.Text.Case
import TypedGraph.Text.Cluster
import TypedGraph.Text.IdentifierChars
import TypedGraph.Text.Quoted
import TypedGraph.Text.Ranges
import TypedGraph.Text.Visible
import TypedGraph.Text.Words
import TypedGraph.Trace
import TypedGraph.Proofs.AccessorPlan
import TypedGraph.Proofs.FileMembers
import TypedGraph.Proofs.Collecting
import TypedGraph.Proofs.Ancestry
import TypedGraph.Proofs.Registry
import TypedGraph.Proofs.BaseForest
import TypedGraph.Proofs.Artifacts
import TypedGraph.Proofs.Opposites
import TypedGraph.Proofs.ModuleTree
import TypedGraph.Proofs.WorldResolution
import TypedGraph.Proofs.Calls
import TypedGraph.Proofs.Ownership
import TypedGraph.Proofs.EmailIndex
import TypedGraph.Proofs.Readers
import TypedGraph.Proofs.Moods
import TypedGraph.Proofs.IndexOwners
import TypedGraph.Proofs.BuildOrder
import TypedGraph.Proofs.Identifiers
import TypedGraph.Proofs.TaskNames
import TypedGraph.Proofs.FacadeNames
import TypedGraph.Proofs.CallSites
import TypedGraph.Proofs.IndexGroups
import TypedGraph.Proofs.IndexKeys
import TypedGraph.Proofs.Paths
import TypedGraph.Proofs.Placement
import TypedGraph.Proofs.Persistence
import TypedGraph.Proofs.Faults
import TypedGraph.Proofs.QualifiedNames
import TypedGraph.Proofs.InlineLayout
import TypedGraph.Proofs.Registers
import TypedGraph.Proofs.Lineages
import TypedGraph.Proofs.IndexRegistration
import TypedGraph.Proofs.AsciiNames
import TypedGraph.Proofs.AccessorNames
import TypedGraph.Proofs.DirectoryTrees
import TypedGraph.Proofs.SourceOrder
import TypedGraph.Proofs.AttributeTypes
import TypedGraph.Proofs.AttributeGroups
import TypedGraph.Proofs.Uses
import TypedGraph.Proofs.ConstantUses
import TypedGraph.Proofs.Factories
import TypedGraph.Proofs.TimeSpans
import TypedGraph.Proofs.Continuations
import TypedGraph.Proofs.Handovers
import TypedGraph.Proofs.InlineText
import TypedGraph.Proofs.DocumentParsing
import TypedGraph.Proofs.ValueQueries
import TypedGraph.Proofs.PlannedWorlds
import TypedGraph.Proofs.LearnedAccess
import TypedGraph.Proofs.StringLiterals
import TypedGraph.Proofs.EnumValues
