import DeskCalculator.Main
import DeskCalculator.Session
import DeskCalculator.Proofs.Chat.Batch
import DeskCalculator.Proofs.Expression
import DeskCalculator.Proofs.Juxtaposition
import DeskCalculator.Proofs.Keywords
import DeskCalculator.Proofs.Postfix.Group
import DeskCalculator.Proofs.Postfix.Splitting
import DeskCalculator.Proofs.Reply
import DeskCalculator.Proofs.Session
import DeskCalculator.Proofs.Token.Factorisation
import DeskCalculator.Proofs.Token.Concatenation
import DeskCalculator.Proofs.Postfix.Shape
import DeskCalculator.Proofs.Token.Rendering
import DeskCalculator.Proofs.LetterCase
import DeskCalculator.Proofs.Diagnostic
import DeskCalculator.Proofs.Table
import DeskCalculator.Proofs.Batch.Rows
import DeskCalculator.Proofs.Decimal.Fewest
import DeskCalculator.Proofs.Decimal.Result
import DeskCalculator.Proofs.Postfix.Stack
import DeskCalculator.Proofs.Surroundings
import DeskCalculator.Proofs.Terminal
import DeskCalculator.Proofs.Report
