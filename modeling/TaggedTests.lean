import TaggedTests.Block
import TaggedTests.Build
import TaggedTests.CommandLine
import TaggedTests.CommandLine.Options
import TaggedTests.Decimal
import TaggedTests.Decimal.Shortest
import TaggedTests.Diff.Compact
import TaggedTests.Diff.Hunk
import TaggedTests.Diff.Myers
import TaggedTests.Diff.Patience
import TaggedTests.Diff.Script
import TaggedTests.Diff.Shared
import TaggedTests.Duration
import TaggedTests.Duration.Seconds
import TaggedTests.Duration.Spans
import TaggedTests.Error
import TaggedTests.Failure
import TaggedTests.Feature
import TaggedTests.Features
import TaggedTests.Fixture
import TaggedTests.Glob
import TaggedTests.Glob.Expand
import TaggedTests.Harness
import TaggedTests.Harness.Selection
import TaggedTests.Host
import TaggedTests.Host.Recorded
import TaggedTests.Host.Scripted
import TaggedTests.Invocation
import TaggedTests.Language
import TaggedTests.Main
import TaggedTests.Obstacle
import TaggedTests.Output
import TaggedTests.Path
import TaggedTests.Registry
import TaggedTests.Registry.Settings
import TaggedTests.Report.Difference
import TaggedTests.Report.FailureReport
import TaggedTests.Report.Style
import TaggedTests.Sandbox
import TaggedTests.Sandbox.Files
import TaggedTests.Sandbox.FloatNumeral
import TaggedTests.Sandbox.Launch
import TaggedTests.Sandbox.Numeral
import TaggedTests.Sandbox.Shell.Arithmetic
import TaggedTests.Sandbox.Shell.Builtin
import TaggedTests.Sandbox.Shell.Command
import TaggedTests.Sandbox.Shell.Evaluate
import TaggedTests.Sandbox.Shell.Pattern
import TaggedTests.Sandbox.Shell.Session
import TaggedTests.Sandbox.Shell.Token
import TaggedTests.Sandbox.Shell.Word
import TaggedTests.Sandbox.Tool
import TaggedTests.Sandbox.Tool.Concatenation
import TaggedTests.Sandbox.Tool.Condition
import TaggedTests.Sandbox.Tool.FloatLayout
import TaggedTests.Sandbox.Tool.Layout
import TaggedTests.Sandbox.Tool.Options
import TaggedTests.Sandbox.Tool.Printf
import TaggedTests.Sandbox.Tool.Quoting
import TaggedTests.Sandbox.Tool.Streams
import TaggedTests.Sandbox.Tool.Trees
import TaggedTests.Sandbox.Tool.Wrapping
import TaggedTests.Sandbox.World
import TaggedTests.Suite
import TaggedTests.Suite.Reader
import TaggedTests.Suite.Render
import TaggedTests.Suite.Run
import TaggedTests.Suite.Sections
import TaggedTests.Tag
import TaggedTests.TagMap
import TaggedTests.Terminal
import TaggedTests.Test
import TaggedTests.Test.Matching
import TaggedTests.Test.Run
import TaggedTests.Text.Basic
import TaggedTests.Text.Blank
import TaggedTests.Text.Integer
import TaggedTests.Text.Lines
import TaggedTests.Text.Pattern
import TaggedTests.Text.ShellWords
import TaggedTests.Text.Shown
import TaggedTests.Text.Utf8
import TaggedTests.Toml
import TaggedTests.Toml.Blank
import TaggedTests.Toml.Document
import TaggedTests.Toml.Excerpt
import TaggedTests.Toml.Moment
import TaggedTests.Toml.Number
import TaggedTests.Toml.Quoted
import TaggedTests.Toml.Reader
import TaggedTests.Toml.Reading
import TaggedTests.Toml.Trouble
import TaggedTests.Toml.Value
import TaggedTests.Workspace
import TaggedTests.Workspace.Recorded
import TaggedTests.Proofs.Test.Matching
import TaggedTests.Proofs.Block.Pairing
import TaggedTests.Proofs.Feature
import TaggedTests.Proofs.Features
import TaggedTests.Proofs.Suite.Grouping
import TaggedTests.Proofs.Suite.Boundaries
import TaggedTests.Proofs.Suite.Placement
import TaggedTests.Proofs.Render.Title
import TaggedTests.Proofs.Feature.Made
import TaggedTests.Proofs.Block.Written
import TaggedTests.Proofs.Suite.Reads
import TaggedTests.Proofs.Render.Heading
import TaggedTests.Proofs.Render.Reading
import TaggedTests.Proofs.Suite.Rereading
import TaggedTests.Proofs.Test.Made
import TaggedTests.Proofs.Suite.RoundTrip
import TaggedTests.Proofs.Host.Hooks
import TaggedTests.Proofs.Test.Verdict
import TaggedTests.Proofs.Test.FirstFailure
import TaggedTests.Proofs.Host.Stateless
import TaggedTests.Proofs.Suite.Outcomes
import TaggedTests.Proofs.Suite.Provenance
import TaggedTests.Proofs.Suite.Sections
import TaggedTests.Proofs.Suite.Legible
import TaggedTests.Proofs.Suite.Saving
import TaggedTests.Proofs.Suite.Refilling
import TaggedTests.Proofs.Harness.Untouched
import TaggedTests.Proofs.Suite.Accounting
import TaggedTests.Proofs.Suite.Calls
import TaggedTests.Proofs.Suite.CutOff
import TaggedTests.Proofs.Test.Content
import TaggedTests.Proofs.Suite.Stripping
import TaggedTests.Proofs.Suite.Stable
import TaggedTests.Proofs.Suite.Prose
import TaggedTests.Proofs.Block.Front
import TaggedTests.Proofs.Suite.Appending
import TaggedTests.Proofs.Text.Cutting
import TaggedTests.Proofs.Suite.Encoding
import TaggedTests.Proofs.Suite.Lossless
import TaggedTests.Proofs.Suite.Migration
import TaggedTests.Proofs.Suite.WellFormed
import TaggedTests.Proofs.Suite.Session
import TaggedTests.Proofs.Suite.Flags
import TaggedTests.Proofs.Test.Repeats
import TaggedTests.Proofs.Text.Words
import TaggedTests.Proofs.Diff.Leads
import TaggedTests.Proofs.Report.Mismatch
import TaggedTests.Proofs.Host.Simulation
import TaggedTests.Proofs.Workspace.Accesses
import TaggedTests.Proofs.Harness.Saving
import TaggedTests.Proofs.CommandLine.Verdict
import TaggedTests.Proofs.Text.Mentions
import TaggedTests.Proofs.Text.Rightmost
import TaggedTests.Proofs.Feature.Merging
import TaggedTests.Proofs.Suite.Accumulation
import TaggedTests.Proofs.Suite.Separators
import TaggedTests.Proofs.Features.Content
import TaggedTests.Proofs.Report.Sections
import TaggedTests.Proofs.Report.Pieces
import TaggedTests.Proofs.Report.EditScript
import TaggedTests.Proofs.Report.Colors
import TaggedTests.Proofs.Suite.Sanitizers
import TaggedTests.Proofs.Suite.LineEnds
import TaggedTests.Proofs.Text.Offsets
import TaggedTests.Proofs.Block.Ranges
import TaggedTests.Proofs.Text.Pieces
import TaggedTests.Proofs.Test.Splitting
import TaggedTests.Proofs.Registry.Layers
import TaggedTests.Proofs.Registry.Overrides
import TaggedTests.Proofs.Render.Layout
import TaggedTests.Proofs.Path.Order
import TaggedTests.Proofs.Harness.Selection
import TaggedTests.Proofs.Suite.Bookkeeping
