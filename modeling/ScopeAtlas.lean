import ScopeAtlas.Command.Arguments
import ScopeAtlas.Command.Run
import ScopeAtlas.Data.Decimal
import ScopeAtlas.Data.Display
import ScopeAtlas.Data.Json
import ScopeAtlas.Data.JsonComments
import ScopeAtlas.Data.Key
import ScopeAtlas.Data.Moment
import ScopeAtlas.Data.ReadFault
import ScopeAtlas.Data.Record
import ScopeAtlas.Data.Toml
import ScopeAtlas.Data.Value
import ScopeAtlas.Data.Yaml
import ScopeAtlas.Data.Yaml.Cursor
import ScopeAtlas.Data.Yaml.Kind
import ScopeAtlas.Data.Yaml.Node
import ScopeAtlas.Data.Yaml.Scalar
import ScopeAtlas.Data.Yaml.Token
import ScopeAtlas.Digest
import ScopeAtlas.Error
import ScopeAtlas.Extraction.Analysis
import ScopeAtlas.Extraction.Context
import ScopeAtlas.Extraction.Definition
import ScopeAtlas.Extraction.Draft
import ScopeAtlas.Extraction.Extractor
import ScopeAtlas.Extraction.Heritage
import ScopeAtlas.Extraction.ImportUse
import ScopeAtlas.Extraction.Metrics
import ScopeAtlas.Extraction.ModuleCode
import ScopeAtlas.Extraction.Naming
import ScopeAtlas.Extraction.References
import ScopeAtlas.Extraction.Walk
import ScopeAtlas.Files.FileSystem
import ScopeAtlas.Files.FileTree
import ScopeAtlas.Files.Path
import ScopeAtlas.Graph.Classification
import ScopeAtlas.Graph.Edge
import ScopeAtlas.Graph.Heritage
import ScopeAtlas.Graph.Nesting
import ScopeAtlas.Graph.Query
import ScopeAtlas.Graph.Recollection
import ScopeAtlas.Graph.Relation
import ScopeAtlas.Graph.Resolution
import ScopeAtlas.Language.CFamily
import ScopeAtlas.Language.CSharp
import ScopeAtlas.Language.EcmaScript
import ScopeAtlas.Language.Go
import ScopeAtlas.Language.Profile
import ScopeAtlas.Language.Python
import ScopeAtlas.Language.PythonModules
import ScopeAtlas.Language.Registry
import ScopeAtlas.Language.Report
import ScopeAtlas.Language.Rust
import ScopeAtlas.Language.StopWords
import ScopeAtlas.Location.CFamily
import ScopeAtlas.Location.CSharp
import ScopeAtlas.Location.EcmaScript
import ScopeAtlas.Location.Ecosystem
import ScopeAtlas.Location.Go
import ScopeAtlas.Location.Manifest
import ScopeAtlas.Location.Python
import ScopeAtlas.Location.Rust
import ScopeAtlas.Location.Specifier
import ScopeAtlas.Main
import ScopeAtlas.Reading.CFamily
import ScopeAtlas.Reading.CSharp
import ScopeAtlas.Reading.Declarator
import ScopeAtlas.Reading.EcmaScript
import ScopeAtlas.Reading.Go
import ScopeAtlas.Reading.Python
import ScopeAtlas.Reading.Rust
import ScopeAtlas.Reading.Strategies
import ScopeAtlas.Scope.Basic
import ScopeAtlas.Scope.Report
import ScopeAtlas.Scope.Stored
import ScopeAtlas.Settings.Basic
import ScopeAtlas.Settings.Environment
import ScopeAtlas.Settings.Merge
import ScopeAtlas.Settings.Reader
import ScopeAtlas.Settings.Sources
import ScopeAtlas.Syntax.Cursor
import ScopeAtlas.Syntax.Node
import ScopeAtlas.Syntax.Source
import ScopeAtlas.Syntax.Stored
import ScopeAtlas.Text.Blank
import ScopeAtlas.Text.CaseTable
import ScopeAtlas.Text.CharacterTable
import ScopeAtlas.Text.Letter
import ScopeAtlas.Text.Lines
import ScopeAtlas.Text.ShellWords
import ScopeAtlas.Text.Shown
import ScopeAtlas.Text.Similarity
import ScopeAtlas.Text.Split
import ScopeAtlas.Text.Utf8
import ScopeAtlas.Workspace.Asking
import ScopeAtlas.Workspace.Discovery
import ScopeAtlas.Workspace.Linking
import ScopeAtlas.Workspace.RunId
import ScopeAtlas.Workspace.Snapshot
import ScopeAtlas.Workspace.Survey
import ScopeAtlas.Proofs.FirstOccurrence
import ScopeAtlas.Proofs.Graph.Emission
import ScopeAtlas.Proofs.Graph.Symmetry
import ScopeAtlas.Proofs.Graph.NameIndex
import ScopeAtlas.Proofs.Graph.Endings
import ScopeAtlas.Proofs.Graph.Contributions
import ScopeAtlas.Proofs.Graph.Inheritance
import ScopeAtlas.Proofs.Extraction.Harvest
import ScopeAtlas.Proofs.Extraction.Tags
import ScopeAtlas.Proofs.Reading.Drafts
import ScopeAtlas.Proofs.Extraction.FileDrafts
import ScopeAtlas.Proofs.Text.Cutting
import ScopeAtlas.Proofs.Graph.Attribution
import ScopeAtlas.Proofs.Location.Locality
import ScopeAtlas.Proofs.Syntax.Places
import ScopeAtlas.Proofs.Extraction.Coverage
import ScopeAtlas.Proofs.Extraction.Separation
import ScopeAtlas.Proofs.Extraction.Identity
import ScopeAtlas.Proofs.Reading.Separation
import ScopeAtlas.Proofs.Reading.UseTrees
import ScopeAtlas.Proofs.Reading.Identity
import ScopeAtlas.Proofs.Graph.Listings
import ScopeAtlas.Proofs.Reading.Naming
import ScopeAtlas.Proofs.Reading.OwnNames
import ScopeAtlas.Proofs.Extraction.Containment
import ScopeAtlas.Proofs.Reading.Containment
import ScopeAtlas.Proofs.Graph.Restriction
import ScopeAtlas.Proofs.Graph.Growth
import ScopeAtlas.Proofs.Graph.Reordering
import ScopeAtlas.Proofs.Graph.Containers
import ScopeAtlas.Proofs.Extraction.Bodies
import ScopeAtlas.Proofs.Reading.Bodies
import ScopeAtlas.Proofs.Graph.Replay
import ScopeAtlas.Proofs.Graph.Forest
import ScopeAtlas.Proofs.Graph.Neighbours
import ScopeAtlas.Proofs.Files.Names
import ScopeAtlas.Proofs.Files.FileSystem
import ScopeAtlas.Proofs.Workspace.Discovery
import ScopeAtlas.Proofs.Workspace.Reports
import ScopeAtlas.Proofs.Workspace.Isolation
import ScopeAtlas.Proofs.Files.Lookup
import ScopeAtlas.Proofs.Files.Descent
import ScopeAtlas.Proofs.Location.Candidates
import ScopeAtlas.Proofs.Location.SelfImports
import ScopeAtlas.Proofs.Location.ModulePaths
import ScopeAtlas.Proofs.Syntax.Numbers
import ScopeAtlas.Proofs.Extraction.Uses
import ScopeAtlas.Proofs.Graph.Tagging
import ScopeAtlas.Proofs.Workspace.Asking
import ScopeAtlas.Proofs.Reading.Declarators
import ScopeAtlas.Proofs.Reading.Prototypes
import ScopeAtlas.Proofs.Reading.Totality
import ScopeAtlas.Proofs.Reading.Functions
import ScopeAtlas.Proofs.Reading.ArgumentNames
import ScopeAtlas.Proofs.Reading.BaseTypes
import ScopeAtlas.Proofs.Extraction.Stretches
import ScopeAtlas.Proofs.Reading.OutsideCode
import ScopeAtlas.Proofs.Data.StringCommas
import ScopeAtlas.Proofs.Location.ModuleFiles
import ScopeAtlas.Proofs.Location.DottedNames
import ScopeAtlas.Proofs.Workspace.ListingOrder
import ScopeAtlas.Proofs.Extraction.Problems
import ScopeAtlas.Proofs.Reading.Problems
import ScopeAtlas.Proofs.Settings.Merging
import ScopeAtlas.Proofs.Location.Declarations
import ScopeAtlas.Proofs.Location.Requirements
