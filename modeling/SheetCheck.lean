import SheetCheck.Text.Position
import SheetCheck.Text.Blank
import SheetCheck.Text.Lines
import SheetCheck.Text.Printable
import SheetCheck.Text.PrintableLiteral
import SheetCheck.Text.AsciiLiteral
import SheetCheck.Decimal.Shortest
import SheetCheck.Json.Value
import SheetCheck.Json.Printer
import SheetCheck.Json.Fault
import SheetCheck.Json.Numeral
import SheetCheck.Json.Reader.Basic
import SheetCheck.Json.Reader.Literal
import SheetCheck.Json.Reader.Number
import SheetCheck.Json.Reader.String
import SheetCheck.Json.Reader.Bracket
import SheetCheck.Json.Reader.Value
import SheetCheck.Json.Reader.Skip
import SheetCheck.Node.Kind
import SheetCheck.Node.Basic
import SheetCheck.Node.Build
import SheetCheck.Node.Declaration
import SheetCheck.Node.Encode
import SheetCheck.Node.Payload
import SheetCheck.Node.Met
import SheetCheck.Node.OfValue
import SheetCheck.Node.OfText
import SheetCheck.Failure.Basic
import SheetCheck.Failure.Backtrace
import SheetCheck.Failure.Excerpt
import SheetCheck.Failure.Encode
import SheetCheck.Nesting.Rule
import SheetCheck.Nesting.Scope
import SheetCheck.Nesting.Event
import SheetCheck.Nesting.Check
import SheetCheck.Command.Files
import SheetCheck.Command.Inputs
import SheetCheck.Command.Arguments
import SheetCheck.Command.Outcome
import SheetCheck.Command.Run
import SheetCheck.Main
import SheetCheck.Proofs.Tree.Occurrence
import SheetCheck.Proofs.Nesting.Container
import SheetCheck.Proofs.Nesting.Table
import SheetCheck.Proofs.Nesting.FirstBreach
import SheetCheck.Proofs.Nesting.Placement
import SheetCheck.Proofs.Nesting.Comparison
import SheetCheck.Proofs.Nesting.Outline
import SheetCheck.Proofs.Nesting.InFile
import SheetCheck.Proofs.Nesting.Log
import SheetCheck.Proofs.Failure.Fill
import SheetCheck.Proofs.Failure.Leave
import SheetCheck.Proofs.Failure.Trace
import SheetCheck.Proofs.Failure.Source
import SheetCheck.Proofs.Failure.History
import SheetCheck.Proofs.Failure.FillAction
import SheetCheck.Proofs.Failure.Reading
import SheetCheck.Proofs.Failure.Label
import SheetCheck.Proofs.Json.Reads
import SheetCheck.Proofs.Json.Spelling
import SheetCheck.Proofs.Json.Tokens
import SheetCheck.Proofs.Json.Strings
import SheetCheck.Proofs.Json.Numbers
import SheetCheck.Proofs.Json.Brackets
import SheetCheck.Proofs.Json.Values
import SheetCheck.Proofs.Json.Skipping
import SheetCheck.Proofs.Json.OneLine
import SheetCheck.Proofs.Node.Members
import SheetCheck.Proofs.Node.Agreement
import SheetCheck.Proofs.Node.KindSpelling
import SheetCheck.Proofs.Node.Respelling
import SheetCheck.Proofs.Node.RoundTrip
import SheetCheck.Proofs.Nesting.Wrapping
import SheetCheck.Proofs.Text.AsciiLiteral
import SheetCheck.Proofs.Text.Lines
import SheetCheck.Proofs.Nesting.Hint
import SheetCheck.Proofs.Command.Independence
import SheetCheck.Proofs.Command.Records
import SheetCheck.Proofs.Command.Formats
import SheetCheck.Proofs.Command.Entries
import SheetCheck.Proofs.Command.Expansion
