import Reckon.Main
import Reckon.Proofs.Command.Limits
import Reckon.Proofs.Decimal.Compounding
import Reckon.Proofs.Decimal.Tipping
import Reckon.Proofs.Duration.Fractions
import Reckon.Proofs.Expr.Alike
import Reckon.Proofs.Expr.ChainReading
import Reckon.Proofs.Expr.DecimalLiteral
import Reckon.Proofs.Expr.Diagnostics
import Reckon.Proofs.Expr.DurationLiteral
import Reckon.Proofs.Expr.PrefixForm
import Reckon.Proofs.Expr.StringLiteral
import Reckon.Proofs.Session.Progress
import Reckon.Proofs.Session.Running
import Reckon.Proofs.Token.Respacing
import Reckon.Proofs.Value.Mirror
import Reckon.Proofs.Value.PowerRange
import Reckon.Proofs.Value.Refusals
import Reckon.Token.Script
