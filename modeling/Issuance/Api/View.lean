import Issuance.Engine.Convert
import Issuance.Engine.Admin
import Issuance.Api.Reply
/-! # Views of records

Numbers as JSON numbers, addresses as forty hex digits, channel identifiers
in base58, an absent round as `null`; an event as its type and attributes,
without the receipt identifier. -/
namespace Issuance.Api

def addressJson (a : Address) : Json := .str a.toHex

def appConfigJson (c : AppConfig) : Json :=
  obj [("rolling_period_hours", .nat c.rollingPeriodHours), ("custodial_signer", addressJson c.custodialSigner)]

def assetJson (a : Asset) : Json :=
  obj [("id", .str a.id), ("decimals", .nat a.decimals), ("mint_authority", addressJson a.mintAuthority),
    ("supply", .nat a.supply)]

def accountJson (a : Account) : Json :=
  obj [("id", .str a.id), ("owner", addressJson a.owner), ("asset", .str a.asset), ("balance", .nat a.balance)]

def roundJson (r : Round) : Json :=
  obj [("id", .nat r.id), ("answer", .int r.answer), ("decimals", .nat r.decimals),
    ("updated_at", .int r.updatedAt)]

def feedJson (f : PriceFeed) : Json :=
  obj [("id", .str f.id), ("description", .str f.description), ("decimals", .nat f.decimals),
    ("latest", match f.latest with
      | some r => roundJson r
      | none => .null)]

def priceJson (p : Price) : Json := obj [("value", .nat p.value), ("precision", .nat p.precision)]

def legJson (l : Leg) : Json :=
  obj [("asset", .str l.asset), ("decimals", .nat l.decimals), ("weight_bps", .nat l.weightBps),
    ("price_feed", .str l.priceFeed)]

def countersFields (c : Counters) : List (String × Json) :=
  [("lifetime_issued", .nat c.lifetimeIssued), ("lifetime_cap", .nat c.lifetimeCap),
    ("period_issued", .nat c.periodIssued), ("period_cap", .nat c.periodCap),
    ("period_anchor", .int c.periodAnchor), ("accumulated_fee", .nat c.accumulatedFee)]

def mintChannelFields (c : MintChannel) : List (String × Json) :=
  [("id", .str c.id.toText), ("path", .str c.path), ("active", .bool c.active), ("capacity", .nat c.capacity),
    ("basket", .arr (c.basket.map legJson)), ("fee_bps", .nat c.feeBps),
    ("min_request_amount", .nat c.minRequestAmount)] ++ countersFields c.counters

def burnChannelFields (c : BurnChannel) : List (String × Json) :=
  [("id", .str c.id.toText), ("path", .str c.path), ("active", .bool c.active),
    ("output_asset", .str c.outputAsset), ("output_decimals", .nat c.outputDecimals),
    ("output_feed", .str c.outputFeed), ("fee_bps", .nat c.feeBps),
    ("min_request_amount", .nat c.minRequestAmount)] ++ countersFields c.counters

def mintChannelJson (c : MintChannel) : Json := obj (mintChannelFields c)

def burnChannelJson (c : BurnChannel) : Json := obj (burnChannelFields c)

def mintStatusJson (p : MintChannel × Nat) : Json := obj (mintChannelFields p.1 ++ [("remaining", .nat p.2)])

def burnStatusJson (p : BurnChannel × Nat) : Json := obj (burnChannelFields p.1 ++ [("remaining", .nat p.2)])

def legTransferJson (t : Engine.LegTransfer) : Json :=
  obj [("asset", .str t.asset), ("source", .str t.source), ("destination", .str t.destination),
    ("amount", .nat t.amount), ("price", priceJson t.price)]

def mintReceiptJson (r : Engine.MintReceipt) : Json :=
  obj [("channel", .str r.channel.toText), ("requester", addressJson r.requester), ("recipient", .str r.recipient),
    ("amount", .nat r.amount), ("fee", .nat r.fee), ("payout", .nat r.payout),
    ("legs", .arr (r.legs.map legTransferJson)), ("window_reset", .bool r.windowReset),
    ("timestamp", .int r.timestamp)]

def burnReceiptJson (r : Engine.BurnReceipt) : Json :=
  obj [("channel", .str r.channel.toText), ("requester", addressJson r.requester),
    ("output_asset", .str r.outputAsset), ("amount", .nat r.amount), ("stable_cost", .nat r.stableCost),
    ("fee", .nat r.fee), ("payout", .nat r.payout), ("price", priceJson r.price),
    ("window_reset", .bool r.windowReset), ("timestamp", .int r.timestamp)]

def mintQuoteJson (q : Engine.MintQuote) : Json :=
  obj [("channel", .str q.channel.toText), ("amount", .nat q.amount), ("fee", .nat q.fee),
    ("payout", .nat q.payout), ("legs", .arr (q.legs.map legTransferJson))]

def burnQuoteJson (q : Engine.BurnQuote) : Json :=
  obj [("channel", .str q.channel.toText), ("amount", .nat q.amount), ("stable_cost", .nat q.stableCost),
    ("fee", .nat q.fee), ("payout", .nat q.payout), ("price", priceJson q.price)]

def withdrawalJson (w : Engine.Withdrawal) : Json :=
  obj [("source", .str w.source), ("destination", .str w.destination), ("asset", .str w.asset),
    ("amount", .nat w.amount)]

def eventJson (e : Event) : Json :=
  obj [("type", .str e.type),
    ("attributes", obj ((e.attributes.filter (·.1 != "receipt")).map fun (k, v) => (k, .str v)))]

end Issuance.Api
