import Parabola.Disk
import Parabola.Main
import Parabola.Session.Delivery
import Parabola.Proofs.Text.Basic
import Parabola.Proofs.Text.Normal
import Parabola.Proofs.Lines
import Parabola.Proofs.Term.Merge
import Parabola.Proofs.Equation.Written
import Parabola.Proofs.Equation.Scan
import Parabola.Proofs.Equation.Language
import Parabola.Proofs.Equation.Display
import Parabola.Proofs.Equation.Prefix
import Parabola.Proofs.Equation.Refusal
import Parabola.Proofs.Equation.Progress
import Parabola.Proofs.Equation.Spelling
import Parabola.Proofs.Equation.Order
import Parabola.Proofs.Equation.Continuation
import Parabola.Proofs.EquationList
import Parabola.Proofs.Binary64.Nearest
import Parabola.Proofs.Binary64.Rounding
import Parabola.Proofs.Binary64.Operations
import Parabola.Proofs.Binary64.WholeRoot
import Parabola.Proofs.Binary64.Mirror
import Parabola.Proofs.Decimal.Shortest
import Parabola.Proofs.Decimal.Reading
import Parabola.Proofs.Roots.Formula
import Parabola.Proofs.Roots.Rational
import Parabola.Proofs.Roots.Order
import Parabola.Proofs.Roots.Count
import Parabola.Proofs.Roots.Sign
import Parabola.Proofs.Roots.Mirror
import Parabola.Proofs.Roots.Report
import Parabola.Proofs.CommandLine.Sources
import Parabola.Proofs.CommandLine.Choice
import Parabola.Proofs.Session.Answer
import Parabola.Proofs.Session.Conversation
import Parabola.Proofs.Session.Truncation
import Parabola.Proofs.Session.Agreement
import Parabola.Proofs.Session.Safety
import Parabola.Proofs.Session.ExitToken
import Parabola.Proofs.Session.Record
import Parabola.Proofs.Program.Batch
import Parabola.Proofs.Program.Conduct
