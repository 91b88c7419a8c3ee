import CompileCommands.Main
import CompileCommands.Database.Reader
import CompileCommands.Files.System
import CompileCommands.Program.Workspace
import CompileCommands.Proofs.Directories.Nesting
import CompileCommands.Proofs.Directories.Stack
import CompileCommands.Proofs.Directories.Attribution
import CompileCommands.Proofs.Directories.SubBuilds
import CompileCommands.Proofs.Text.Utf8
import CompileCommands.Proofs.Text.Offsets
import CompileCommands.Proofs.Command.Segment
import CompileCommands.Proofs.BuildLog.Offsets
import CompileCommands.Proofs.BuildLog.Streaming
import CompileCommands.Proofs.Database.RoundTrip
import CompileCommands.Proofs.BuildLog.Margins
import CompileCommands.Proofs.Command.Invocation
import CompileCommands.Proofs.Command.SourceName
import CompileCommands.Proofs.BuildLog.Commands
import CompileCommands.Proofs.Files.Writing
import CompileCommands.Proofs.Program.Endings
import CompileCommands.Proofs.Program.Sending
import CompileCommands.Proofs.Program.AllOrNothing
import CompileCommands.Proofs.BuildLog.Independence
import CompileCommands.Proofs.Directories.Placeholder
import CompileCommands.Proofs.Files.Contents
import CompileCommands.Proofs.Program.FirstFailure
import CompileCommands.Proofs.CommandLine.Level
import CompileCommands.Proofs.Toml.Locality
import CompileCommands.Proofs.Config.Level
import CompileCommands.Proofs.Program.Logging
import CompileCommands.Proofs.Directories.Announcements
import CompileCommands.Proofs.Command.Compiler
import CompileCommands.Proofs.Command.NameRuns
import CompileCommands.Proofs.Log.Lines
import CompileCommands.Proofs.Program.Counts
import CompileCommands.Proofs.Command.Surroundings
import CompileCommands.Proofs.Command.Extent
import CompileCommands.Proofs.Directories.Operations
import CompileCommands.Proofs.Json.Renderings
import CompileCommands.Proofs.Database.Meaning
import CompileCommands.Proofs.Database.Layout
import CompileCommands.Proofs.Files.Paths
import CompileCommands.Proofs.Program.Delivery
import CompileCommands.Proofs.Command.Unchained
import CompileCommands.Proofs.CommandLine.Order
import CompileCommands.Proofs.Toml.Literals
import CompileCommands.Proofs.Toml.Documents
import CompileCommands.Proofs.Config.Documents
