import LiteralRegex.Alternation.Reader
import LiteralRegex.CharRange.Members
import LiteralRegex.CharRange.Walk
import LiteralRegex.ClassBody.Reader
import LiteralRegex.Literal.Scan
import LiteralRegex.Main
import LiteralRegex.Mask.Bytes
import LiteralRegex.Mask.Forward
import LiteralRegex.Session
import LiteralRegex.Text.Utf8
import LiteralRegex.Proofs.Alternation.Canonical
import LiteralRegex.Proofs.Alternation.Longest
import LiteralRegex.Proofs.CharRange.Walk
import LiteralRegex.Proofs.ClassBody.Shortest
import LiteralRegex.Proofs.CommandLine.Options
import LiteralRegex.Proofs.Mask.Bytes
import LiteralRegex.Proofs.Mask.Undo
import LiteralRegex.Proofs.Session.Default
import LiteralRegex.Proofs.CommandLine.BeforeCommand
import LiteralRegex.Proofs.Literal.Parts
import LiteralRegex.Proofs.Mask.Refusal
import LiteralRegex.Proofs.ClassBody.Hyphens
import LiteralRegex.Proofs.Alternation.Bars
import LiteralRegex.Proofs.CodePoint.Reading
import LiteralRegex.Proofs.CommandLine.ExitCode
import LiteralRegex.Proofs.CommandLine.DefaultFlavor
import LiteralRegex.Proofs.CommandLine.OneLine
import LiteralRegex.Proofs.Request.Precedence
import LiteralRegex.Proofs.CharRange.Members
import LiteralRegex.Proofs.ClassBody.Ranges
import LiteralRegex.Proofs.Mask.Sorted
import LiteralRegex.Proofs.Mask.Stepwise
import LiteralRegex.Proofs.CodePoint.Grammar
import LiteralRegex.Proofs.Text.Sorted
import LiteralRegex.Proofs.Alternation.ByBytes
import LiteralRegex.Proofs.Text.Blank
import LiteralRegex.Proofs.Text.Decimal
import LiteralRegex.Proofs.Flavor.Grammar
import LiteralRegex.Proofs.ClassBody.Items
import LiteralRegex.Proofs.ClassBody.Separated
import LiteralRegex.Proofs.Alternation.SingleCharacters
import LiteralRegex.Proofs.Flavor.Agreement
import LiteralRegex.Proofs.CodePoint.NumberForm
import LiteralRegex.Proofs.CharRange.Calls
import LiteralRegex.Proofs.CharRange.SizeHint
import LiteralRegex.CharRange.Words
import LiteralRegex.Proofs.CharRange.Words
