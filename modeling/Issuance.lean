import Issuance.Api.Answer
import Issuance.Proofs.Amount.ExactFraction
import Issuance.Proofs.Engine.Atomic
import Issuance.Proofs.Engine.Headroom
import Issuance.Proofs.Engine.Overflow
import Issuance.Proofs.Engine.PeriodCap
import Issuance.Proofs.Engine.ReadBack
import Issuance.Proofs.Engine.Rounding
import Issuance.Proofs.Engine.RouteOrder
import Issuance.Proofs.Engine.Withdrawal
import Issuance.Proofs.Feed.History
import Issuance.Proofs.Logging.DsnMask
import Issuance.Proofs.Service.HubDelivery
import Issuance.Proofs.Text.Bech32Codec
