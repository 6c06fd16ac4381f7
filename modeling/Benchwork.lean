import Benchwork.Benchmark.Entry
import Benchwork.Benchmark.Failure
import Benchwork.Benchmark.Filter
import Benchwork.Benchmark.Group
import Benchwork.Benchmark.Load
import Benchwork.Benchmark.Results
import Benchwork.Build.Command
import Benchwork.Build.Descriptor
import Benchwork.Build.Failure
import Benchwork.Build.Host
import Benchwork.Build.JavaRuntime
import Benchwork.Build.Manifest
import Benchwork.Build.Repository
import Benchwork.Build.Runner
import Benchwork.Build.Scripted
import Benchwork.Chart.Color
import Benchwork.Chart.Model
import Benchwork.Chart.Theme
import Benchwork.CommandLine.Build
import Benchwork.CommandLine.Plot
import Benchwork.CommandLine.Top
import Benchwork.CommandLine.Usage
import Benchwork.Files.Fault
import Benchwork.Files.Node
import Benchwork.Files.Path
import Benchwork.Files.Store
import Benchwork.Json.Number
import Benchwork.Json.Reader
import Benchwork.Json.Value
import Benchwork.Main
import Benchwork.Number.Binary
import Benchwork.Number.Fixed
import Benchwork.Number.Shortest
import Benchwork.Number.Whole
import Benchwork.Ordered
import Benchwork.Page.Drawing
import Benchwork.Page.Element
import Benchwork.Page.Frame
import Benchwork.Program
import Benchwork.Shell.Arithmetic
import Benchwork.Shell.Brace
import Benchwork.Shell.Condition
import Benchwork.Shell.Expansion
import Benchwork.Shell.Format
import Benchwork.Shell.Image
import Benchwork.Shell.Interpreter
import Benchwork.Shell.Notice
import Benchwork.Shell.Opening
import Benchwork.Shell.OwnCommand
import Benchwork.Shell.OwnCommand.Basic
import Benchwork.Shell.OwnCommand.Directory
import Benchwork.Shell.OwnCommand.Flow
import Benchwork.Shell.OwnCommand.Mask
import Benchwork.Shell.OwnCommand.Names
import Benchwork.Shell.OwnCommand.Printing
import Benchwork.Shell.OwnCommand.Reading
import Benchwork.Shell.OwnCommand.Settings
import Benchwork.Shell.OwnCommand.Signals
import Benchwork.Shell.OwnCommand.Variables
import Benchwork.Shell.Pattern
import Benchwork.Shell.Process
import Benchwork.Shell.Reader
import Benchwork.Shell.Redirecting
import Benchwork.Shell.Regex
import Benchwork.Shell.Script
import Benchwork.Shell.Signal
import Benchwork.Shell.Starter
import Benchwork.Shell.State
import Benchwork.Shell.Tool.Basic
import Benchwork.Shell.Tool.Bytes
import Benchwork.Shell.Tool.Columns
import Benchwork.Shell.Tool.Compare
import Benchwork.Shell.Tool.Digest
import Benchwork.Shell.Tool.Editor
import Benchwork.Shell.Tool.Expression
import Benchwork.Shell.Tool.Find
import Benchwork.Shell.Tool.Lines
import Benchwork.Shell.Tool.Listing
import Benchwork.Shell.Tool.Machine
import Benchwork.Shell.Tool.Order
import Benchwork.Shell.Tool.Search
import Benchwork.Shell.Tool.Tree
import Benchwork.Shell.Toolbox
import Benchwork.Table
import Benchwork.Terminal.Screen
import Benchwork.Terminal.View
import Benchwork.Terminal.Wrap
import Benchwork.Text.Blank
import Benchwork.Text.Column
import Benchwork.Text.Octets
import Benchwork.Text.Pattern
import Benchwork.Text.Pictograph
import Benchwork.Text.Printable
import Benchwork.Text.Quoted
import Benchwork.Text.Utf8
import Benchwork.Text.Width
import Benchwork.Proofs.Ordered
import Benchwork.Proofs.Files.View
import Benchwork.Proofs.Files.Lookup
import Benchwork.Proofs.Files.Paths
import Benchwork.Proofs.Files.Change
import Benchwork.Proofs.Build.Session
import Benchwork.Proofs.Build.Stages
import Benchwork.Proofs.Build.Idempotence
import Benchwork.Proofs.Build.Pinning
import Benchwork.Proofs.Text.Utf8
import Benchwork.Proofs.Build.Sharing
import Benchwork.Proofs.Build.Founder
import Benchwork.Proofs.Files.Plain
import Benchwork.Proofs.Build.Detection
import Benchwork.Proofs.Build.Markers
import Benchwork.Proofs.Build.Closest
import Benchwork.Proofs.Build.Plan
import Benchwork.Proofs.Build.Progress
import Benchwork.Proofs.Build.Footprint
import Benchwork.Proofs.Files.Subtree
import Benchwork.Proofs.Build.Confinement
import Benchwork.Proofs.Build.Independence
import Benchwork.Proofs.Benchmark.Results
import Benchwork.Proofs.Benchmark.Loading
import Benchwork.Proofs.Benchmark.Options
import Benchwork.Proofs.Chart.Agreement
import Benchwork.Proofs.Build.Fallback
import Benchwork.Proofs.Chart.Measurements
import Benchwork.Proofs.Page.Escape
import Benchwork.Proofs.Page.Markup
import Benchwork.Proofs.CommandLine.Words
import Benchwork.Proofs.Number.Whole
import Benchwork.Proofs.CommandLine.RoundTrip
import Benchwork.Proofs.Files.Orderly
import Benchwork.Proofs.Build.Discovery
import Benchwork.Proofs.Text.Words
import Benchwork.Proofs.Build.Libraries
import Benchwork.Proofs.Build.IgnoreList
import Benchwork.Proofs.Build.RepositoryName
import Benchwork.Proofs.Build.Residence
import Benchwork.Proofs.Text.ByteOrder
import Benchwork.Proofs.Text.Occurrences
import Benchwork.Proofs.Text.Lines
import Benchwork.Proofs.Build.Manifest
import Benchwork.Proofs.Benchmark.Defects
import Benchwork.Proofs.Benchmark.Renaming
import Benchwork.Proofs.Chart.StandIns
import Benchwork.Proofs.Benchmark.Ordering
import Benchwork.Proofs.Chart.Colors
import Benchwork.Proofs.Chart.Overflow
import Benchwork.Proofs.Terminal.InRange
import Benchwork.Proofs.Page.Tags
import Benchwork.Proofs.Page.Items
import Benchwork.Proofs.Build.Supply
import Benchwork.Proofs.CommandLine.Runtimes
import Benchwork.Proofs.Build.RuntimeLists
import Benchwork.Proofs.Number.Rounding
import Benchwork.Proofs.Number.Arithmetic
import Benchwork.Proofs.Number.Digits
import Benchwork.Proofs.Number.Plain
import Benchwork.Proofs.Page.Room
import Benchwork.Proofs.Number.Places
import Benchwork.Proofs.Number.Fraction
import Benchwork.Proofs.Page.Ticks
import Benchwork.Proofs.Build.Command
