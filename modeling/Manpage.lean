import Manpage.Applet
import Manpage.Awk.Command
import Manpage.Awk.Grammar
import Manpage.Awk.Machine
import Manpage.Awk.Number
import Manpage.Awk.Report
import Manpage.Awk.Scanner
import Manpage.Awk.Syntax
import Manpage.Awk.Value
import Manpage.Batch.Basic
import Manpage.Batch.Collect
import Manpage.Batch.Publish
import Manpage.Calendar
import Manpage.Command.Discovery
import Manpage.Command.Host
import Manpage.Command.Outcome
import Manpage.Command.Tool
import Manpage.Failure
import Manpage.Files.Basic
import Manpage.Files.Change
import Manpage.Files.Fault
import Manpage.Files.Lookup
import Manpage.Fragments
import Manpage.Help.Basic
import Manpage.Help.Malformed
import Manpage.Help.OptionEntry
import Manpage.Help.SubApplets
import Manpage.Help.Usage
import Manpage.Json.Reader
import Manpage.Json.Shortest
import Manpage.Log.Event
import Manpage.Log.Filter
import Manpage.Log.Rule
import Manpage.Log.ValuePattern
import Manpage.Main
import Manpage.Page.Basic
import Manpage.Page.Layout
import Manpage.Page.Roff
import Manpage.Page.SeeAlso
import Manpage.Path
import Manpage.Pool
import Manpage.Program
import Manpage.Regex.Basic
import Manpage.Regex.Reader
import Manpage.Run
import Manpage.Settings.Arguments
import Manpage.Settings.Basic
import Manpage.Settings.ConfigFile
import Manpage.Settings.Words
import Manpage.Shell.Arithmetic
import Manpage.Shell.Basic
import Manpage.Shell.Builtins
import Manpage.Shell.Conditions
import Manpage.Shell.Declaring
import Manpage.Shell.Execution
import Manpage.Shell.Expansion
import Manpage.Shell.Fields
import Manpage.Shell.Fork
import Manpage.Shell.Grammar
import Manpage.Shell.Input
import Manpage.Shell.Lookup
import Manpage.Shell.Menu
import Manpage.Shell.Pattern
import Manpage.Shell.Places
import Manpage.Shell.Programs
import Manpage.Shell.Quoting
import Manpage.Shell.Reader
import Manpage.Shell.Redirection
import Manpage.Shell.Scanner
import Manpage.Shell.Settings
import Manpage.Shell.Signals
import Manpage.Shell.Start
import Manpage.Shell.State
import Manpage.Shell.Token
import Manpage.Shell.Words
import Manpage.System.Channel
import Manpage.System.Image
import Manpage.System.Process
import Manpage.System.Signal
import Manpage.Text.Alphanumeric
import Manpage.Text.Basic
import Manpage.Text.Line
import Manpage.Text.Octets
import Manpage.Text.Ordered
import Manpage.Text.Quoted
import Manpage.Text.Unprintable
import Manpage.Text.Utf8
import Manpage.Utility.Attributes
import Manpage.Utility.Blocks
import Manpage.Utility.Columns
import Manpage.Utility.Copying
import Manpage.Utility.Counting
import Manpage.Utility.Dates
import Manpage.Utility.Decimal
import Manpage.Utility.Dumping
import Manpage.Utility.EditScript
import Manpage.Utility.Editing
import Manpage.Utility.Ends
import Manpage.Utility.Expression
import Manpage.Utility.Finding
import Manpage.Utility.Input
import Manpage.Utility.Listing
import Manpage.Utility.Making
import Manpage.Utility.Moment
import Manpage.Utility.Moving
import Manpage.Utility.Names
import Manpage.Utility.Numbering
import Manpage.Utility.Options
import Manpage.Utility.Pairing
import Manpage.Utility.Permissions
import Manpage.Utility.Printf
import Manpage.Utility.Removing
import Manpage.Utility.Searching
import Manpage.Utility.Sorting
import Manpage.Utility.Speaking
import Manpage.Utility.Starting
import Manpage.Utility.Surroundings
import Manpage.Utility.Table
import Manpage.Utility.Tabs
import Manpage.Utility.Test
import Manpage.Proofs.Results
import Manpage.Proofs.Text.Cut
import Manpage.Proofs.Text.Lines
import Manpage.Proofs.Help.OptionLine
import Manpage.Proofs.Help.UsageLine
import Manpage.Proofs.Help.Parsed
import Manpage.Proofs.Help.UsagePattern
import Manpage.Proofs.Help.OptionsBlock
import Manpage.Proofs.Page.Roff
import Manpage.Proofs.Page.Generate
import Manpage.Proofs.Page.Lossless
import Manpage.Proofs.Page.Requests
import Manpage.Proofs.Help.Sheet
import Manpage.Proofs.Files.Walk
import Manpage.Proofs.Text.Order
import Manpage.Proofs.Applet.Listed
import Manpage.Proofs.Program.Interleaved
import Manpage.Proofs.Program.Pool
import Manpage.Proofs.Program.Contract
import Manpage.Proofs.Batch.AnyOrder
import Manpage.Proofs.Batch.Lasting
import Manpage.Proofs.Batch.Account
import Manpage.Proofs.Batch.CrossReferences
import Manpage.Proofs.Files.Making
import Manpage.Proofs.Batch.AtomicWrite
import Manpage.Proofs.Run.ExitStatus
import Manpage.Proofs.Path.Components
import Manpage.Proofs.Text.Decoding
import Manpage.Proofs.Applet.Stem
import Manpage.Proofs.Applet.Printed
import Manpage.Proofs.Help.Overlap
import Manpage.Proofs.Fragments.Selection
import Manpage.Proofs.Settings.Layers
