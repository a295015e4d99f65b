import SourceTally.AliasTable
import SourceTally.Assoc
import SourceTally.Catalogue
import SourceTally.CharClass
import SourceTally.CommandLine.Arguments
import SourceTally.CommandLine.Help
import SourceTally.CommandLine.Option
import SourceTally.CommandLine.Word
import SourceTally.Counter.Basic
import SourceTally.Counter.Options
import SourceTally.Counter.Process
import SourceTally.Counter.Registry
import SourceTally.Discovery
import SourceTally.Error
import SourceTally.Exclusion
import SourceTally.Extension
import SourceTally.FileTree.Basic
import SourceTally.FileTree.Build
import SourceTally.FileTree.Fault
import SourceTally.FileTree.Read
import SourceTally.FileTree.Resolve
import SourceTally.FileTree.Walk
import SourceTally.Json.Basic
import SourceTally.Json.Printer
import SourceTally.Main
import SourceTally.Note
import SourceTally.Parser.Basic
import SourceTally.Parser.Extensions
import SourceTally.Path
import SourceTally.Pattern.Basic
import SourceTally.Pattern.Fault
import SourceTally.Pattern.Reader
import SourceTally.Pattern.Search
import SourceTally.Program
import SourceTally.Report.Basic
import SourceTally.Report.Table
import SourceTally.Run
import SourceTally.Scan.Comment
import SourceTally.Scan.Plain
import SourceTally.Scan.Symbol
import SourceTally.Statistics
import SourceTally.Text.Blank
import SourceTally.Text.Encoding
import SourceTally.Text.LowerCase
import SourceTally.Text.LowerCase.Context
import SourceTally.Text.LowerCase.Runs
import SourceTally.Text.Order
import SourceTally.Text.Printable
import SourceTally.Text.Quoted
import SourceTally.Text.Ranges
import SourceTally.Text.Utf8
import SourceTally.Text.Word
import SourceTally.Value
import SourceTally.Wildcard.Basic
import SourceTally.Wildcard.Expand
import SourceTally.Workbench
import SourceTally.Proofs.Counts
import SourceTally.Proofs.Scan.Lexer
import SourceTally.Proofs.Scan.LookBack
import SourceTally.Proofs.Scan.Plain
import SourceTally.Proofs.Scan.Openers
import SourceTally.Proofs.Scan.Balance
import SourceTally.Proofs.Scan.LineEnds
import SourceTally.Proofs.Assoc
import SourceTally.Proofs.Counter.Operation
import SourceTally.Proofs.Counter.Conservation
import SourceTally.Proofs.Counter.Batch
import SourceTally.Proofs.Counter.Calls
import SourceTally.Proofs.FileTree.Way
import SourceTally.Proofs.FileTree.LookUp
import SourceTally.Proofs.FileTree.RealPath
import SourceTally.Proofs.FileTree.Loops
import SourceTally.Proofs.FileTree.Names
import SourceTally.Proofs.FileTree.Walk
import SourceTally.Proofs.Discovery
import SourceTally.Proofs.Discovery.Laws
import SourceTally.Proofs.Catalogue
import SourceTally.Proofs.Run.Tally
import SourceTally.Proofs.Run.Outcome
import SourceTally.Proofs.Run.Partition
import SourceTally.Proofs.Run.InputOrder
import SourceTally.Proofs.Run.LinkLoop
import SourceTally.Proofs.Extension.Clean
import SourceTally.Proofs.Extension.Folder
import SourceTally.Proofs.AliasTable
import SourceTally.Proofs.Counter.Dispatch
import SourceTally.Proofs.CommandLine.Aliases
import SourceTally.Proofs.FileTree.Read
import SourceTally.Proofs.Run.Unknowns
import SourceTally.Proofs.Run.Status
import SourceTally.Proofs.Scan.CommentText
import SourceTally.Proofs.Counter.Recording
import SourceTally.Proofs.Scan.ByLine
import SourceTally.Proofs.Batches
import SourceTally.Proofs.Work
import SourceTally.Proofs.AliasTable.History
import SourceTally.Proofs.Counter.Registry
import SourceTally.Proofs.Workbench
import SourceTally.Proofs.Catalogue.Registration
import SourceTally.Proofs.Json.Reader
import SourceTally.Proofs.Json.Spelling
import SourceTally.Proofs.Json.RoundTrip
import SourceTally.Proofs.Report.Document
import SourceTally.Proofs.Report.Columns
import SourceTally.Proofs.Extension.Spelling
import SourceTally.Proofs.Parser.Extensions
import SourceTally.Proofs.Text.Utf8
