import Issuance.Engine.Convert
import Issuance.Engine.Admin
import Issuance.Service.AuditLog
import Issuance.Service.Http
/-! # Views of records over the wire

Camel-case members in a fixed order, addresses in bech32, identifiers in
base58, times in RFC 3339; a body is compact JSON with `<`, `>`, `&`
escaped. -/
namespace Issuance.Service

open Engine

def unlessEmpty (fs : List (String × String)) : List (String × Json) :=
  (fs.filter (!·.2.isEmpty)).map fun (k, v) => (k, .str v)

def timeJson (seconds : Int) : Json := .str (Text.rfc3339Nano seconds 0)

def appConfigView (c : AppConfig) : Json :=
  .obj [("rollingPeriodHours", .nat c.rollingPeriodHours), ("custodialSigner", .str c.custodialSigner.shown)]

def legView (l : Leg) : Json :=
  .obj ([("asset", .str l.asset), ("decimals", .nat l.decimals), ("weightBps", .nat l.weightBps)] ++
    unlessEmpty [("priceFeed", l.priceFeed)])

def countersView (c : Counters) (remaining : Nat) : Json :=
  .obj [("lifetimeIssued", .nat c.lifetimeIssued), ("lifetimeCap", .nat c.lifetimeCap),
    ("periodIssued", .nat c.periodIssued), ("periodCap", .nat c.periodCap),
    ("periodAnchor", .int c.periodAnchor), ("accumulatedFee", .nat c.accumulatedFee),
    ("remaining", .nat remaining)]

def mintChannelView (c : MintChannel) (remaining : Nat) : Json :=
  .obj [("id", .str c.id.toText), ("path", .str c.path), ("active", .bool c.active),
    ("capacity", .nat c.capacity), ("basket", .arr (c.basket.map legView)), ("feeBps", .nat c.feeBps),
    ("minRequestAmount", .nat c.minRequestAmount), ("counters", countersView c.counters remaining)]

def burnChannelView (c : BurnChannel) (remaining : Nat) : Json :=
  .obj ([("id", .str c.id.toText), ("path", .str c.path), ("active", .bool c.active),
    ("outputAsset", .str c.outputAsset), ("outputDecimals", .nat c.outputDecimals)] ++
    unlessEmpty [("outputFeed", c.outputFeed)] ++
    [("feeBps", .nat c.feeBps), ("minRequestAmount", .nat c.minRequestAmount),
      ("counters", countersView c.counters remaining)])

def priceView (p : Price) : Json := .obj [("value", .nat p.value), ("precision", .nat p.precision)]

def transferView (t : LegTransfer) : Json :=
  .obj ([("asset", .str t.asset)] ++ unlessEmpty [("source", t.source), ("destination", t.destination)] ++
    [("amount", .nat t.amount), ("price", priceView t.price)])

def mintReceiptView (r : MintReceipt) : Json :=
  .obj [("id", .str r.id), ("channel", .str r.channel.toText), ("requester", .str r.requester.shown),
    ("recipient", .str r.recipient), ("amount", .nat r.amount), ("fee", .nat r.fee), ("payout", .nat r.payout),
    ("legs", .arr (r.legs.map transferView)), ("windowReset", .bool r.windowReset),
    ("timestamp", timeJson r.timestamp)]

def burnReceiptView (r : BurnReceipt) : Json :=
  .obj [("id", .str r.id), ("channel", .str r.channel.toText), ("requester", .str r.requester.shown),
    ("outputAsset", .str r.outputAsset), ("amount", .nat r.amount), ("stableCost", .nat r.stableCost),
    ("fee", .nat r.fee), ("payout", .nat r.payout), ("price", priceView r.price),
    ("windowReset", .bool r.windowReset), ("timestamp", timeJson r.timestamp)]

def mintQuoteView (q : MintQuote) : Json :=
  .obj [("channel", .str q.channel.toText), ("amount", .nat q.amount), ("fee", .nat q.fee),
    ("payout", .nat q.payout), ("legs", .arr (q.legs.map transferView))]

def burnQuoteView (q : BurnQuote) : Json :=
  .obj [("channel", .str q.channel.toText), ("amount", .nat q.amount), ("stableCost", .nat q.stableCost),
    ("fee", .nat q.fee), ("payout", .nat q.payout), ("price", priceView q.price)]

def accountView (a : Account) : Json :=
  .obj [("id", .str a.id), ("owner", .str a.owner.shown), ("asset", .str a.asset), ("balance", .nat a.balance)]

def assetView (a : Asset) : Json :=
  .obj [("id", .str a.id), ("decimals", .nat a.decimals), ("mintAuthority", .str a.mintAuthority.shown),
    ("supply", .nat a.supply)]

def roundView (r : Round) : Json :=
  .obj [("id", .nat r.id), ("answer", .int r.answer), ("decimals", .nat r.decimals),
    ("updatedAt", timeJson r.updatedAt)]

def feedView (f : PriceFeed) : Json :=
  .obj ([("id", .str f.id)] ++ unlessEmpty [("description", f.description)] ++
    [("decimals", .nat f.decimals)] ++
    (match f.latest with
      | some r => [("latest", roundView r)]
      | none => []))

def withdrawalView (w : Withdrawal) : Json :=
  .obj [("amount", .nat w.amount), ("asset", .str w.asset), ("destination", .str w.destination),
    ("source", .str w.source)]

def attributesView (attrs : List (String × String)) : Json :=
  .obj ((attrs.foldl (fun acc kv => insertPair kv acc) []).map fun (k, v) => (k, .str v))
where
  insertPair (kv : String × String) : List (String × String) → List (String × String)
    | [] => [kv]
    | x :: xs => if kv.1 < x.1 then kv :: x :: xs else if kv.1 = x.1 then kv :: xs else x :: insertPair kv xs

def auditView (e : AuditEntry) (attrs : Option (List (String × String))) : Json :=
  .obj ([("id", .str e.id), ("type", .str e.type)] ++ unlessEmpty [("channel", e.channel)] ++
    [("createdAt", .str e.createdAt.rfc3339Nano),
      ("attributes", match attrs with
        | some a => attributesView a
        | none => .null)])

def bodyText (j : Json) : String := j.render true ++ "\n"

def answer (status : Nat) (j : Json) : Response := jsonResponse status (bodyText j)

/-- A problem answer: its class and, when not empty, its message. -/
def problem (status : Nat) (code message : String) : Response :=
  answer status (.obj ([("error", .str code)] ++ unlessEmpty [("message", message)]))

end Issuance.Service
