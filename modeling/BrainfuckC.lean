import BrainfuckC.CommandLine.Argument
import BrainfuckC.CommandLine.Outcome
import BrainfuckC.CommandLine.Request
import BrainfuckC.CommandLine.Run
import BrainfuckC.CommandLine.Usage
import BrainfuckC.Compilation
import BrainfuckC.Diagnostic
import BrainfuckC.Emission
import BrainfuckC.Emitter
import BrainfuckC.Excerpt
import BrainfuckC.FileError
import BrainfuckC.FileTree
import BrainfuckC.Location
import BrainfuckC.LoopFault
import BrainfuckC.Main
import BrainfuckC.Op
import BrainfuckC.Path
import BrainfuckC.Program
import BrainfuckC.Proofs.Bracket.Balanced
import BrainfuckC.Proofs.Bracket.Opened
import BrainfuckC.Proofs.Bracket.Relocation
import BrainfuckC.Proofs.Bracket.Repair
import BrainfuckC.Proofs.Bracket.Verdict
import BrainfuckC.Proofs.CommandLine.AllOrNothing
import BrainfuckC.Proofs.CommandLine.Arrangement
import BrainfuckC.Proofs.CommandLine.Item
import BrainfuckC.Proofs.CommandLine.Settings
import BrainfuckC.Proofs.Compilation.Concatenation
import BrainfuckC.Proofs.Compilation.Symbols
import BrainfuckC.Proofs.Emission.Brace
import BrainfuckC.Proofs.Emission.Decoding
import BrainfuckC.Proofs.Emission.Depth
import BrainfuckC.Proofs.Emission.Line
import BrainfuckC.Proofs.Emission.Trace
import BrainfuckC.Proofs.Emitter.History
import BrainfuckC.Proofs.Encoding.Reading
import BrainfuckC.Proofs.Encoding.Utf8
import BrainfuckC.Proofs.Encoding.WellFormed
import BrainfuckC.Proofs.Excerpt.Caret
import BrainfuckC.Proofs.Excerpt.Clamped
import BrainfuckC.Proofs.Excerpt.Row
import BrainfuckC.Proofs.Excerpt.Window
import BrainfuckC.Proofs.Execution.Block
import BrainfuckC.Proofs.Execution.Jump
import BrainfuckC.Proofs.Execution.Memory
import BrainfuckC.Proofs.Execution.Preservation
import BrainfuckC.Proofs.Execution.Reading
import BrainfuckC.Proofs.FileTree.Writing
import BrainfuckC.Proofs.Forest.Basic
import BrainfuckC.Proofs.Forest.Pretty
import BrainfuckC.Proofs.List
import BrainfuckC.Proofs.Location.Layout
import BrainfuckC.Proofs.Location.Line
import BrainfuckC.Proofs.Location.Position
import BrainfuckC.Proofs.Path.DefaultOutput
import BrainfuckC.Proofs.Session.History
import BrainfuckC.Proofs.SourceFile.LineEnd
import BrainfuckC.Proofs.SourceFile.Stored
import BrainfuckC.Proofs.Text.LineEnd
import BrainfuckC.Session
import BrainfuckC.SourceFile
import BrainfuckC.Statement
import BrainfuckC.Text
import BrainfuckC.Text.Decimal
import BrainfuckC.Text.DecimalDigit
import BrainfuckC.Text.Encoding
import BrainfuckC.Text.Newline
import BrainfuckC.Text.Printable
import BrainfuckC.Text.Quoted
import BrainfuckC.Text.Utf8
import BrainfuckC.TextFile
import BrainfuckC.Proofs.TextFile.Outcome
import BrainfuckC.Proofs.Compilation.Plain
