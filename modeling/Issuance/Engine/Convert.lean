import Issuance.Engine.Basic
/-! # Conversions

A mint moves each leg's collateral into custody, checks the caps and issues
the amount less the fee; a burn moves the stable cost into custody, retires
it and pays the output less the fee. Quotes compute the same figures and
write nothing. -/
namespace Issuance.Engine

open Store

/-- One leg of a conversion: what moved, from where to where, at what price. -/
structure LegTransfer where
  asset : String
  source : String
  destination : String
  amount : Nat
  price : Price
  deriving DecidableEq, Repr

structure MintRequest where
  channel : ChannelId
  requester : Address
  amount : Nat
  legs : List Channel.Route
  recipient : String

structure MintReceipt where
  id : String
  channel : ChannelId
  requester : Address
  recipient : String
  amount : Nat
  fee : Nat
  payout : Nat
  legs : List LegTransfer
  windowReset : Bool
  timestamp : Int

/-- Where a burn takes the stable unit from and pays the output to. -/
structure BurnRoute where
  stableSource : String
  stableCustody : String
  outputSource : String
  outputDestination : String
  feed : String
  deriving DecidableEq, Repr

structure BurnRequest where
  channel : ChannelId
  requester : Address
  amount : Nat
  route : BurnRoute

structure BurnReceipt where
  id : String
  channel : ChannelId
  requester : Address
  outputAsset : String
  amount : Nat
  stableCost : Nat
  fee : Nat
  payout : Nat
  price : Price
  windowReset : Bool
  timestamp : Int

structure MintQuote where
  channel : ChannelId
  amount : Nat
  fee : Nat
  payout : Nat
  legs : List LegTransfer

structure BurnQuote where
  channel : ChannelId
  amount : Nat
  stableCost : Nat
  fee : Nat
  payout : Nat
  price : Price

def activeMintChannel (id : ChannelId) : Txn MintChannel := do
  let some c ← Channel.mintChannel id
    | Txn.fail (Fault.raise .unavailable ("unknown mint channel " ++ id.toText))
  if !c.active then Txn.fail (Fault.raise .unavailable ("mint channel " ++ id.toText ++ " is inactive"))
  pure c

def activeBurnChannel (id : ChannelId) : Txn BurnChannel := do
  let some c ← Channel.burnChannel id
    | Txn.fail (Fault.raise .unavailable ("unknown burn channel " ++ id.toText))
  if !c.active then Txn.fail (Fault.raise .unavailable ("burn channel " ++ id.toText ++ " is inactive"))
  pure c

def checkAmount (amount least : Nat) : Except Fault Unit :=
  if amount = 0 then .error (Fault.raise .invalidInput "amount must be positive")
  else if amount < least then
    .error (Fault.raise .invalidInput ("amount " ++ toString amount ++ " below minimum " ++ toString least))
  else .ok ()

/-- Price and amount of each basket leg for a mint of `amount`, each leg
priced by the feed its route names (in a quote, its own feed). -/
def priceLegs (e : Engine) (o : Oracle) (amount : Nat) :
    List (Leg × String × String × String) → Txn (List LegTransfer)
  | [] => pure []
  | (leg, feed, source, destination) :: rest => do
    let price ← Txn.mapFault (Fault.within ("leg " ++ leg.asset)) (o.readPrice leg.priceFeed feed)
    let n ← Txn.lift (legAmount e.stableDecimals amount leg price)
    let t : LegTransfer := ⟨leg.asset, source, destination, n, price⟩
    pure (t :: (← priceLegs e o amount rest))

/-- Each mint leg's price, amount and accounts, in basket order: a source
of the requester and a custody account, both of the leg's asset. -/
def routeLegs (e : Engine) (o : Oracle) (amount : Nat) (requester custodian : Address) :
    List (Leg × Channel.Route) → Txn (List LegTransfer)
  | [] => pure []
  | (leg, r) :: rest => do
    let price ← Txn.mapFault (Fault.within ("leg " ++ leg.asset)) (o.readPrice leg.priceFeed r.feed)
    let n ← Txn.lift (legAmount e.stableDecimals amount leg price)
    let _ ← requireAccount "source" r.source leg.asset (some requester)
    let _ ← requireAccount "custody" r.destination leg.asset (some custodian)
    pure (⟨leg.asset, r.source, r.destination, n, price⟩ :: (← routeLegs e o amount requester custodian rest))

def transferLegs (requester : Address) : List LegTransfer → Txn Unit
  | [] => pure ()
  | t :: rest => do
    bankStep (fun err => Fault.within ("leg " ++ t.asset ++ " transfer") (accountFault err))
      (Bank.transfer requester t.source t.destination t.amount)
    transferLegs requester rest

def mint (e : Engine) (ctx : Context) (req : MintRequest) : Txn (MintReceipt × List Event) := do
  let cfg ← requireAppConfig
  let c ← activeMintChannel req.channel
  Txn.lift (checkAmount req.amount c.minRequestAmount)
  if c.basket.isEmpty then
    Txn.fail (Fault.raise .unavailable ("mint channel " ++ req.channel.toText ++ " has no basket"))
  let routes ← Txn.lift (Channel.matchRoutes c.basket req.legs)
  let w := Channel.snapshot c.counters cfg.rollingPeriodHours ctx.now
  Txn.lift (w.checkCaps c.counters req.amount)
  let custodian := cfg.custodialSigner
  let legs ← routeLegs e (e.oracle ctx) req.amount req.requester custodian (c.basket.zip routes)
  let _ ← requireAccount "recipient" req.recipient e.stableAsset none
  let (fee, payout) ← Txn.lift (splitFee req.amount c.feeBps)
  let accumulated ← Txn.lift (Amount.checkedAdd c.counters.accumulatedFee fee)
  transferLegs req.requester legs
  let (counters, reset) ← Txn.lift (w.apply c.counters req.amount)
  let c := { c with counters := { counters with accumulatedFee := accumulated } }
  bankStep (fun err => Fault.within "issue stable" (accountFault err)) (Bank.mintTo custodian req.recipient payout)
  Channel.putMintChannel c
  let receipt : MintReceipt := ⟨ctx.fresh, req.channel, req.requester, req.recipient, req.amount, fee, payout,
    legs, reset, ctx.now⟩
  pure (receipt, [.minted ctx.fresh req.channel.toText req.requester req.recipient req.amount fee payout
    (legs.map (·.asset)) (legs.map (·.amount))])

def quoteMint (e : Engine) (ctx : Context) (id : ChannelId) (amount : Nat) : Txn MintQuote := do
  let cfg ← requireAppConfig
  let c ← activeMintChannel id
  Txn.lift (checkAmount amount c.minRequestAmount)
  let w := Channel.snapshot c.counters cfg.rollingPeriodHours ctx.now
  Txn.lift (w.checkCaps c.counters amount)
  let legs ← priceLegs e (e.oracle ctx) amount (c.basket.map fun l => (l, l.priceFeed, "", ""))
  let (fee, payout) ← Txn.lift (splitFee amount c.feeBps)
  pure ⟨id, amount, fee, payout, legs⟩

def burn (e : Engine) (ctx : Context) (req : BurnRequest) : Txn (BurnReceipt × List Event) := do
  let cfg ← requireAppConfig
  let c ← activeBurnChannel req.channel
  Txn.lift (checkAmount req.amount c.minRequestAmount)
  let custodian := cfg.custodialSigner
  let r := req.route
  let _ ← requireAccount "stable source" r.stableSource e.stableAsset (some req.requester)
  let _ ← requireAccount "stable custody" r.stableCustody e.stableAsset (some custodian)
  let _ ← requireAccount "output custody" r.outputSource c.outputAsset (some custodian)
  let _ ← requireAccount "output destination" r.outputDestination c.outputAsset none
  let w := Channel.snapshot c.counters cfg.rollingPeriodHours ctx.now
  let price ← (e.oracle ctx).readPrice c.outputFeed r.feed
  let cost ← Txn.lift (stableCost e.stableDecimals req.amount c.outputDecimals price)
  Txn.lift (w.checkCaps c.counters cost)
  let (fee, payout) ← Txn.lift (splitFee req.amount c.feeBps)
  let accumulated ← Txn.lift (Amount.checkedAdd c.counters.accumulatedFee fee)
  bankStep (fun err => Fault.within "collect stable" (accountFault err))
    (Bank.transfer req.requester r.stableSource r.stableCustody cost)
  bankStep (fun err => Fault.within "burn stable" (accountFault err)) (Bank.burn custodian r.stableCustody cost)
  let (counters, reset) ← Txn.lift (w.apply c.counters cost)
  bankStep (fun err => Fault.within ("pay out " ++ c.outputAsset) (accountFault err))
    (Bank.transfer custodian r.outputSource r.outputDestination payout)
  let c := { c with counters := { counters with accumulatedFee := accumulated } }
  Channel.putBurnChannel c
  let receipt : BurnReceipt := ⟨ctx.fresh, req.channel, req.requester, c.outputAsset, req.amount, cost, fee,
    payout, price, reset, ctx.now⟩
  pure (receipt, [.burned ctx.fresh req.channel.toText req.requester c.outputAsset req.amount cost fee payout])

def quoteBurn (e : Engine) (ctx : Context) (id : ChannelId) (amount : Nat) : Txn BurnQuote := do
  let cfg ← requireAppConfig
  let c ← activeBurnChannel id
  Txn.lift (checkAmount amount c.minRequestAmount)
  let price ← (e.oracle ctx).readPrice c.outputFeed c.outputFeed
  let cost ← Txn.lift (stableCost e.stableDecimals amount c.outputDecimals price)
  let w := Channel.snapshot c.counters cfg.rollingPeriodHours ctx.now
  Txn.lift (w.checkCaps c.counters cost)
  let (fee, payout) ← Txn.lift (splitFee amount c.feeBps)
  pure ⟨id, amount, cost, fee, payout, price⟩

end Issuance.Engine
