import Issuance.Feed
import Issuance.Channel.Basic
import Issuance.Text.Time
/-! # Prices and conversions

A price is a feed's answer over ten to its decimals, or one over one. Reading
one checks the expected feed and a positive, fresh round. A mint leg costs
its share of the amount over the price, a burn the output times the price,
each moved between decimals, rounding down; a zero cost is refused. -/
namespace Issuance

structure Price where
  value : Nat
  precision : Nat
  deriving DecidableEq, Repr

def Price.identity : Price := ⟨1, 1⟩

/-- Where prices come from: the transaction's registry, a staleness limit
in seconds (zero: none), an instant; `reader` if any. -/
structure Oracle where
  reader : Bool := true
  maxAge : Nat := 0
  now : Int

namespace Oracle

/-- The price of `configured` when the requester expects `supplied`; both
are trimmed. -/
def readPrice (o : Oracle) (configured supplied : String) : Store.Txn Price := do
  let configured := Text.trim configured
  let supplied := Text.trim supplied
  if supplied != configured then
    Store.Txn.fail (Fault.raise .oracleMismatch ("expected feed " ++ Text.quoted configured ++ ", got " ++
      Text.quoted supplied))
  if configured.isEmpty then return Price.identity
  if !o.reader then Store.Txn.fail (Fault.raise .oracleUnavailable "no feed reader")
  let round ← Store.Txn.mapFault (fun e => Fault.raise .oracleUnavailable (configured ++ ": " ++ e.message))
    (Feed.latest configured)
  if round.answer ≤ 0 then
    Store.Txn.fail (Fault.raise .oracleUnavailable (configured ++ ": non-positive answer"))
  if o.maxAge > 0 && o.now - round.updatedAt > o.maxAge then
    Store.Txn.fail (Fault.raise .oracleUnavailable (configured ++ ": round from " ++
      Text.rfc3339 round.updatedAt ++ " is stale"))
  match Amount.pow10 round.decimals with
  | .ok p => pure ⟨round.answer.toNat, p⟩
  | .error f => Store.Txn.fail (Fault.raise .oracleUnavailable (configured ++ ": " ++ f.message))

end Oracle

def legAmount (stableDecimals amount : Nat) (leg : Leg) (price : Price) : Except Fault Nat := do
  let value ← Amount.mulDiv amount leg.weightBps Amount.basisPoints
  let converted ← Amount.mulDiv value price.precision price.value
  let legScale ← Amount.pow10 leg.decimals
  let stableScale ← Amount.pow10 stableDecimals
  let out ← Amount.mulDiv converted legScale stableScale
  if out = 0 && leg.weightBps > 0 then
    throw (Fault.raise .invalidInput ("amount " ++ toString amount ++ " too small for leg " ++ leg.asset))
  pure out

def stableCost (stableDecimals out outputDecimals : Nat) (price : Price) : Except Fault Nat := do
  let valued ← Amount.mulDiv out price.value price.precision
  let stableScale ← Amount.pow10 stableDecimals
  let outputScale ← Amount.pow10 outputDecimals
  let cost ← Amount.mulDiv valued stableScale outputScale
  if cost = 0 then throw (Fault.raise .invalidInput ("output amount " ++ toString out ++ " too small"))
  pure cost

def splitFee (amount feeBps : Nat) : Except Fault (Nat × Nat) := do
  let fee ← Amount.mulDiv amount feeBps Amount.basisPoints
  let payout ← Amount.checkedSub amount fee
  pure (fee, payout)

end Issuance
