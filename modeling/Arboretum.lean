import Arboretum.Adapter.Basic
import Arboretum.Adapter.Error
import Arboretum.Adapter.Manifest
import Arboretum.Adapter.Metadata
import Arboretum.Adapter.Registry
import Arboretum.Catalog.Basic
import Arboretum.Catalog.Kinds
import Arboretum.Catalog.Template
import Arboretum.Cli.Arguments
import Arboretum.Cli.Choice
import Arboretum.Cli.Failure
import Arboretum.Cli.Files
import Arboretum.Cli.Run
import Arboretum.Engine.Basic
import Arboretum.Engine.Diagnostic
import Arboretum.Engine.Grammar
import Arboretum.Engine.Loader
import Arboretum.Engine.Recording
import Arboretum.Json.Basic
import Arboretum.Json.Describe
import Arboretum.Json.Pointer
import Arboretum.Json.Printer
import Arboretum.Json.Reader
import Arboretum.Json.Skip
import Arboretum.Location.Basic
import Arboretum.Location.Strategy
import Arboretum.Main
import Arboretum.Number.Binary64
import Arboretum.Number.Power
import Arboretum.Number.Shortest
import Arboretum.Options.Basic
import Arboretum.Options.Codec
import Arboretum.Proofs.Calls
import Arboretum.Proofs.Cancellation
import Arboretum.Proofs.CharacterCounts
import Arboretum.Proofs.Conversion
import Arboretum.Proofs.DescriptorForms
import Arboretum.Proofs.Endings
import Arboretum.Proofs.ExactOffsets
import Arboretum.Proofs.Fields
import Arboretum.Proofs.FirstError
import Arboretum.Proofs.InFlight
import Arboretum.Proofs.KindNames
import Arboretum.Proofs.Lifecycle
import Arboretum.Proofs.Loading
import Arboretum.Proofs.NamedNodes
import Arboretum.Proofs.Negotiation
import Arboretum.Proofs.ParseOutcome
import Arboretum.Proofs.Placement
import Arboretum.Proofs.PointOffsets
import Arboretum.Proofs.Positions
import Arboretum.Proofs.QueryPhase
import Arboretum.Proofs.Readings
import Arboretum.Proofs.Releases
import Arboretum.Proofs.Selection
import Arboretum.Proofs.SessionSteps
import Arboretum.Proofs.SharedVersions
import Arboretum.Proofs.SingleFlight
import Arboretum.Proofs.Slices
import Arboretum.Proofs.UniqueIds
import Arboretum.Proofs.VersionCache
import Arboretum.Proofs.VersionQueue
import Arboretum.Proofs.VersionTurns
import Arboretum.Proofs.Walk
import Arboretum.Session.Basic
import Arboretum.Session.Script
import Arboretum.Settings.Basic
import Arboretum.Shape.Convert
import Arboretum.Shape.Options
import Arboretum.Text.CharIndex
import Arboretum.Text.Columns
import Arboretum.Text.Lines
import Arboretum.Text.Path
import Arboretum.Text.Printable
import Arboretum.Text.Quoted
import Arboretum.Text.Split
import Arboretum.Toml.Basic
import Arboretum.Toml.Dates
import Arboretum.Toml.Document
import Arboretum.Toml.Printer
import Arboretum.Toml.Reader
import Arboretum.Toml.Scalar
import Arboretum.Tree.Basic
import Arboretum.Tree.Cursor
import Arboretum.Tree.Errors
import Arboretum.Ui.Elapsed
import Arboretum.Ui.Style
import Arboretum.Ui.Table
