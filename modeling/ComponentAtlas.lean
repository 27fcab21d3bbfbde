import ComponentAtlas.Anatomy
import ComponentAtlas.Catalog
import ComponentAtlas.Classifier
import ComponentAtlas.Codec.Catalog
import ComponentAtlas.Codec.Settings
import ComponentAtlas.Codec.Tree
import ComponentAtlas.Codec.Views
import ComponentAtlas.CommandLine.Answer
import ComponentAtlas.CommandLine.Grammar
import ComponentAtlas.CommandLine.Invocation
import ComponentAtlas.CommandLine.Lookup
import ComponentAtlas.CommandLine.Run
import ComponentAtlas.Composition
import ComponentAtlas.DataFile
import ComponentAtlas.Decimal.Binary64
import ComponentAtlas.Decimal.Layout
import ComponentAtlas.Decimal.Power
import ComponentAtlas.Decimal.Reading
import ComponentAtlas.Decimal.Shortest
import ComponentAtlas.Document
import ComponentAtlas.Document.Scalar
import ComponentAtlas.Document.View
import ComponentAtlas.Duration
import ComponentAtlas.Fault
import ComponentAtlas.Files
import ComponentAtlas.Fragments
import ComponentAtlas.Glob
import ComponentAtlas.Inspector
import ComponentAtlas.Json.Reader
import ComponentAtlas.Json.Writer
import ComponentAtlas.Keyed
import ComponentAtlas.Literal
import ComponentAtlas.Main
import ComponentAtlas.Merge
import ComponentAtlas.Node
import ComponentAtlas.PropertyPath
import ComponentAtlas.Regex
import ComponentAtlas.Regex.Class
import ComponentAtlas.Regex.Parser
import ComponentAtlas.Regex.Property
import ComponentAtlas.Regex.Reading
import ComponentAtlas.Report
import ComponentAtlas.Settings
import ComponentAtlas.SourceText.Lexeme
import ComponentAtlas.SourceText.Render
import ComponentAtlas.Terminal.Style
import ComponentAtlas.Terminal.Table
import ComponentAtlas.Text.Quoted
import ComponentAtlas.Toml.Lexeme
import ComponentAtlas.Toml.Reader
import ComponentAtlas.Toml.Table
import ComponentAtlas.Tree.Validity
import ComponentAtlas.Unicode.Category
import ComponentAtlas.Unicode.CategoryTable
import ComponentAtlas.Unicode.Folding
import ComponentAtlas.Unicode.FoldingTable
import ComponentAtlas.Unicode.Property
import ComponentAtlas.Unicode.PropertyTable
import ComponentAtlas.Unicode.Runs
import ComponentAtlas.Unicode.Script
import ComponentAtlas.Unicode.ScriptTable
import ComponentAtlas.Value
import ComponentAtlas.Yaml.Cursor
import ComponentAtlas.Yaml.Node
import ComponentAtlas.Yaml.Reader
import ComponentAtlas.Yaml.Scalar
import ComponentAtlas.Yaml.Tag
import ComponentAtlas.Yaml.Token
import ComponentAtlas.Yaml.Writer
import ComponentAtlas.Proofs.KeyedLists
import ComponentAtlas.Proofs.NodeInduction
import ComponentAtlas.Proofs.MergeOutcome
import ComponentAtlas.Proofs.MergePaths
import ComponentAtlas.Proofs.OverlayAssociativity
import ComponentAtlas.Proofs.MergeGrouping
import ComponentAtlas.Proofs.CompositionMarking
import ComponentAtlas.Proofs.CompositionPositions
import ComponentAtlas.Proofs.FloatText
import ComponentAtlas.Proofs.RenderingFaithful
import ComponentAtlas.Proofs.CompositionReach
import ComponentAtlas.Proofs.CompositionCompleteness
import ComponentAtlas.Proofs.CompositionBounds
import ComponentAtlas.Proofs.CompositionLocality
import ComponentAtlas.Proofs.MergeConflicts
import ComponentAtlas.Proofs.StrictPolicy
import ComponentAtlas.Proofs.StrictPreservation
import ComponentAtlas.Proofs.MergeAbsorption
import ComponentAtlas.Proofs.MergeByName
import ComponentAtlas.Proofs.MergeValidity
import ComponentAtlas.Proofs.AnatomyOutline
import ComponentAtlas.Proofs.DocumentOrder
import ComponentAtlas.Proofs.RenderingFaults
import ComponentAtlas.Proofs.MergeComposition
import ComponentAtlas.Proofs.PackageIsolation
import ComponentAtlas.Proofs.JsonFloats
import ComponentAtlas.Proofs.JsonReading
import ComponentAtlas.Proofs.JsonValues
import ComponentAtlas.Proofs.TreeTransport
import ComponentAtlas.Proofs.ValueTransport
import ComponentAtlas.Proofs.SettingsTransport
import ComponentAtlas.Proofs.JsonTransport
import ComponentAtlas.Proofs.InstanceAddresses
import ComponentAtlas.Proofs.RoleUniqueness
import ComponentAtlas.Proofs.NamingFaults
import ComponentAtlas.Proofs.PathWalks
import ComponentAtlas.Proofs.Invocations
import ComponentAtlas.Proofs.AnatomyViews
import ComponentAtlas.Proofs.Nesting
import ComponentAtlas.Proofs.RootKinds
import ComponentAtlas.Proofs.Successions
import ComponentAtlas.Proofs.CatalogMembers
import ComponentAtlas.Proofs.PackageFaults
import ComponentAtlas.Proofs.SettingsWarnings
import ComponentAtlas.Proofs.FileTrees
import ComponentAtlas.Proofs.PathComponents
import ComponentAtlas.Proofs.DirectoryWalks
import ComponentAtlas.Proofs.Relisting
import ComponentAtlas.Proofs.FragmentPrecedence
import ComponentAtlas.Proofs.ListedPackages
import ComponentAtlas.Proofs.PackageConfinement
import ComponentAtlas.Proofs.TableAlignment
import ComponentAtlas.Proofs.DecodedSettings
import ComponentAtlas.Proofs.FileBuilding
