import Issuance.Text.Utf8
import Issuance.Channel.Basic
import Issuance.Store.Tx
/-! # Where channels are kept

The settings, the channel records, and per kind an index of identifiers in
first-stored order. A period anchor is stored unsigned, so a negative one
reads back as zero. -/
namespace Issuance.Channel

open Store

def appConfigKey : Bytes := Bytes.ofString "factory/app-config"

def recordPrefix (k : Kind) : Bytes := Bytes.ofString ("factory/" ++ k.word ++ "/")

def recordKey (k : Kind) (id : ChannelId) : Bytes := recordPrefix k ++ id.bytes

def indexKey (k : Kind) : Bytes := Bytes.ofString ("factory/index/" ++ k.word)

def appConfigShape : Rlp.Shape :=
  .record "factory.storedAppConfig" [("RollingPeriodHours", .uint 32), ("CustodialSigner", .fixed 20 "[20]uint8")]

def legShape : Rlp.Shape :=
  .record "factory.storedLeg" [("Asset", .text "string"), ("Decimals", .uint 16), ("WeightBps", .uint 16),
    ("PriceFeed", .text "string")]

def countersShape : Rlp.Shape :=
  .record "factory.storedCounters" [("LifetimeIssued", .uint 64), ("LifetimeCap", .uint 64),
    ("PeriodIssued", .uint 64), ("PeriodCap", .uint 64), ("PeriodAnchor", .uint 64), ("AccumulatedFee", .uint 64)]

def mintShape : Rlp.Shape :=
  .record "factory.storedMintChannel" [("ID", .fixed 32 "factory.ChannelID"), ("Path", .text "string"),
    ("Active", .bool), ("Capacity", .uint 16), ("Basket", .seq legShape "[]factory.storedLeg"),
    ("FeeBps", .uint 16), ("MinRequestAmount", .uint 64), ("Counters", countersShape)]

def burnShape : Rlp.Shape :=
  .record "factory.storedBurnChannel" [("ID", .fixed 32 "factory.ChannelID"), ("Path", .text "string"),
    ("Active", .bool), ("OutputAsset", .text "string"), ("OutputDecimals", .uint 16),
    ("OutputFeed", .text "string"), ("FeeBps", .uint 16), ("MinRequestAmount", .uint 64),
    ("Counters", countersShape)]

def textOf : Rlp.Value → String
  | .bytes b => Bytes.toTextLossy b
  | _ => ""

def numOf : Rlp.Value → Nat
  | .num n => n
  | _ => 0

def flagOf : Rlp.Value → Bool
  | .flag b => b
  | _ => false

def bytesOf : Rlp.Value → Bytes
  | .bytes b => b
  | _ => []

def appConfigValue (c : AppConfig) : Rlp.Value :=
  .items [.num c.rollingPeriodHours, .bytes c.custodialSigner.bytes]

def appConfigOf : Rlp.Value → AppConfig
  | .items [h, s] => ⟨numOf h, (Address.ofBytes? (bytesOf s)).getD Address.zero⟩
  | _ => ⟨0, Address.zero⟩

def legValue (l : Leg) : Rlp.Value :=
  .items [.bytes (Bytes.ofString l.asset), .num l.decimals, .num l.weightBps, .bytes (Bytes.ofString l.priceFeed)]

def legOf : Rlp.Value → Leg
  | .items [a, d, w, f] => ⟨textOf a, numOf d, numOf w, textOf f⟩
  | _ => default

/-- The unsigned anchor that is stored: negative anchors become zero. -/
def storedAnchor (a : Int) : Nat := if a > 0 then a.toNat else 0

def countersValue (c : Counters) : Rlp.Value :=
  .items [.num c.lifetimeIssued, .num c.lifetimeCap, .num c.periodIssued, .num c.periodCap,
    .num (storedAnchor c.periodAnchor), .num c.accumulatedFee]

def signedOf (n : Nat) : Int := if n < Nat.pow 2 63 then n else (n : Int) - Int.pow 2 64

def countersOf : Rlp.Value → Counters
  | .items [a, b, c, d, e, f] => ⟨numOf a, numOf b, numOf c, numOf d, signedOf (numOf e), numOf f⟩
  | _ => {}

def idOf (v : Rlp.Value) : ChannelId := (ChannelId.ofBytes? (bytesOf v)).getD ChannelId.zero

def mintValue (c : MintChannel) : Rlp.Value :=
  .items [.bytes c.id.bytes, .bytes (Bytes.ofString c.path), .flag c.active, .num c.capacity,
    .items (c.basket.map legValue), .num c.feeBps, .num c.minRequestAmount, countersValue c.counters]

def mintOf : Rlp.Value → MintChannel
  | .items [i, p, a, cap, .items legs, f, m, cs] =>
    ⟨idOf i, textOf p, flagOf a, numOf cap, legs.map legOf, numOf f, numOf m, countersOf cs⟩
  | _ => ⟨ChannelId.zero, "", false, 0, [], 0, 0, {}⟩

def burnValue (c : BurnChannel) : Rlp.Value :=
  .items [.bytes c.id.bytes, .bytes (Bytes.ofString c.path), .flag c.active, .bytes (Bytes.ofString c.outputAsset),
    .num c.outputDecimals, .bytes (Bytes.ofString c.outputFeed), .num c.feeBps, .num c.minRequestAmount,
    countersValue c.counters]

def burnOf : Rlp.Value → BurnChannel
  | .items [i, p, a, o, od, of, f, m, cs] =>
    ⟨idOf i, textOf p, flagOf a, textOf o, numOf od, textOf of, numOf f, numOf m, countersOf cs⟩
  | _ => ⟨ChannelId.zero, "", false, "", 0, "", 0, 0, {}⟩

def appConfig : Txn (Option AppConfig) := do
  pure ((← Txn.read appConfigShape appConfigKey).map appConfigOf)

def putAppConfig (c : AppConfig) : Txn Unit := Txn.write appConfigKey (appConfigValue c)

def mintChannel (id : ChannelId) : Txn (Option MintChannel) := do
  pure ((← Txn.read mintShape (recordKey .mint id)).map mintOf)

def burnChannel (id : ChannelId) : Txn (Option BurnChannel) := do
  pure ((← Txn.read burnShape (recordKey .burn id)).map burnOf)

def putMintChannel (c : MintChannel) : Txn Unit := do
  if c.id.isZero then Txn.fail (Fault.plain "factory: mint channel id required")
  Txn.write (recordKey .mint c.id) (mintValue c)
  Txn.append (indexKey .mint) c.id.bytes

def putBurnChannel (c : BurnChannel) : Txn Unit := do
  if c.id.isZero then Txn.fail (Fault.plain "factory: burn channel id required")
  Txn.write (recordKey .burn c.id) (burnValue c)
  Txn.append (indexKey .burn) c.id.bytes

/-- An identifier of index bytes: copied into 32 bytes, zero padded or cut. -/
def idOfIndex (b : Bytes) : ChannelId :=
  ⟨(b ++ List.replicate 32 0).take 32, by simp⟩

/-- The mint channels in index order; entries without a record are skipped. -/
def mintChannels : Txn (List MintChannel) := do
  let ids ← Txn.readList (indexKey .mint)
  let found ← ids.mapM fun b => mintChannel (idOfIndex b)
  pure (found.filterMap id)

/-- The burn channels in index order; entries without a record are skipped. -/
def burnChannels : Txn (List BurnChannel) := do
  let ids ← Txn.readList (indexKey .burn)
  let found ← ids.mapM fun b => burnChannel (idOfIndex b)
  pure (found.filterMap id)

end Issuance.Channel
