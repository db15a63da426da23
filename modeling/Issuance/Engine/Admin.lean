import Issuance.Engine.Basic
/-! # Administrative operations

Settings, channels, fee withdrawals, custody release, assets and feeds. The
caller is checked before the transaction starts, so a refused one touches
nothing. -/
namespace Issuance.Engine

open Store

def createAppConfig (signer : Address) : Txn (AppConfig × List Event) := do
  if signer.isZero then Txn.fail (Fault.raise .invalidInput "custodial signer required")
  if (← Channel.appConfig).isSome then Txn.fail (Fault.raise .invalidInput "app config already exists")
  let c : AppConfig := ⟨defaultRollingHours, signer⟩
  Channel.putAppConfig c
  pure (c, [.appConfigSet c.rollingPeriodHours c.custodialSigner true])

def setAppConfig (hours : Nat) : Txn (AppConfig × List Event) := do
  if hours = 0 then Txn.fail (Fault.raise .invalidInput "rolling period must be at least one hour")
  let c ← requireAppConfig
  let c := { c with rollingPeriodHours := hours }
  Channel.putAppConfig c
  pure (c, [.appConfigSet c.rollingPeriodHours c.custodialSigner false])

/-- Create an inactive mint channel at a path; zero capacity means the default. -/
def createMintChannel (path : String) (capacity : Nat) : Txn (MintChannel × List Event) := do
  let p ← Txn.lift (Channel.checkPath path)
  let _ ← requireAppConfig
  let capacity := if capacity = 0 then defaultCapacity else capacity
  let id := ChannelId.derive .mint p
  if (← Channel.mintChannel id).isSome then
    Txn.fail (Fault.raise .invalidInput ("mint channel " ++ id.toText ++ " already exists"))
  let c : MintChannel := { id := id, path := p, capacity := capacity }
  Channel.putMintChannel c
  pure (c, [.mintChannelCreated id.toText p capacity])

/-- Configure a mint channel; legs are trimmed, and caps may not fall below
what has been counted. -/
def setMintChannel (now : Int) (id : ChannelId) (s : MintSettings) : Txn (MintChannel × List Event) := do
  let cfg ← requireAppConfig
  let some c ← Channel.mintChannel id
    | Txn.fail (Fault.raise .invalidInput ("unknown mint channel " ++ id.toText))
  let basket := s.basket.map fun l => { l with asset := Text.trim l.asset, priceFeed := Text.trim l.priceFeed }
  let s := { s with basket := basket }
  Txn.lift (Channel.checkMintSettings s c.capacity)
  Txn.lift (Channel.checkCapsAgainst c.counters s.limits cfg.rollingPeriodHours now)
  let counters := { c.counters with lifetimeCap := s.limits.lifetimeCap, periodCap := s.limits.periodCap }
  let c := { c with
    active := s.active, basket := basket, feeBps := s.feeBps
    minRequestAmount := s.limits.minRequestAmount, counters := counters }
  Channel.putMintChannel c
  pure (c, [.mintChannelSet id.toText c.active (basket.map (·.asset)) (basket.map (·.weightBps)) c.feeBps
    c.counters.lifetimeCap c.counters.periodCap c.minRequestAmount])

def createBurnChannel (path : String) : Txn (BurnChannel × List Event) := do
  let p ← Txn.lift (Channel.checkPath path)
  let _ ← requireAppConfig
  let id := ChannelId.derive .burn p
  if (← Channel.burnChannel id).isSome then
    Txn.fail (Fault.raise .invalidInput ("burn channel " ++ id.toText ++ " already exists"))
  let c : BurnChannel := { id := id, path := p }
  Channel.putBurnChannel c
  pure (c, [.burnChannelCreated id.toText p])

/-- Configure a burn channel; the output asset and feed are trimmed. -/
def setBurnChannel (now : Int) (id : ChannelId) (s : BurnSettings) : Txn (BurnChannel × List Event) := do
  let cfg ← requireAppConfig
  let some c ← Channel.burnChannel id
    | Txn.fail (Fault.raise .invalidInput ("unknown burn channel " ++ id.toText))
  let s := { s with outputAsset := Text.trim s.outputAsset, outputFeed := Text.trim s.outputFeed }
  Txn.lift (Channel.checkBurnSettings s)
  Txn.lift (Channel.checkCapsAgainst c.counters s.limits cfg.rollingPeriodHours now)
  let counters := { c.counters with lifetimeCap := s.limits.lifetimeCap, periodCap := s.limits.periodCap }
  let c := { c with
    active := s.active, outputAsset := s.outputAsset, outputDecimals := s.outputDecimals
    outputFeed := s.outputFeed, feeBps := s.feeBps, minRequestAmount := s.limits.minRequestAmount
    counters := counters }
  Channel.putBurnChannel c
  pure (c, [.burnChannelSet id.toText c.active c.outputAsset c.outputFeed c.feeBps c.counters.lifetimeCap
    c.counters.periodCap c.minRequestAmount])

structure Withdrawal where
  source : String
  destination : String
  asset : String
  amount : Nat

def withdrawFee (source destination : String) (amount : Nat) : Txn (Withdrawal × List Event) := do
  if amount = 0 then Txn.fail (Fault.raise .invalidInput "amount must be positive")
  let cfg ← requireAppConfig
  let src ← bankStep (fun e => Fault.within "source account" (accountFault e)) (Bank.account source)
  if src.owner != cfg.custodialSigner then
    Txn.fail (Fault.raise .invalidAccount ("source account " ++ src.id ++ " is not custodial"))
  let _ ← requireAccount "destination" destination src.asset none
  bankStep accountFault (Bank.transfer cfg.custodialSigner src.id destination amount)
  pure (⟨src.id, destination, src.asset, amount⟩, [.feeWithdrawn src.id destination src.asset amount])

def releaseAssetCustody (asset : String) (next : Address) : Txn (Unit × List Event) := do
  let asset := Text.trim asset
  if asset.isEmpty then Txn.fail (Fault.raise .invalidInput "asset required")
  if next.isZero then Txn.fail (Fault.raise .invalidInput "new authority required")
  let cfg ← requireAppConfig
  bankStep (fun e => match e with
      | .assetNotFound _ => Fault.under .invalidInput e.toFault
      | e => accountFault e)
    (Bank.setMintAuthority cfg.custodialSigner asset next)
  pure ((), [.custodyReleased asset next])

/-- Create an asset; a zero authority means the custodial signer. -/
def createAsset (id : String) (decimals : Nat) (authority : Address) : Txn (Asset × List Event) := do
  Txn.lift (Channel.checkDecimals decimals)
  let authority ← if authority.isZero then do pure (← requireAppConfig).custodialSigner else pure authority
  let a ← bankStep (fun e => match e with
      | .assetExists _ => Fault.under .invalidInput e.toFault
      | e => e.toFault)
    (Bank.createAsset id decimals authority)
  pure (a, [.assetCreated a.id a.decimals a.mintAuthority])

def feedFault (e : Feed.Error) : Fault :=
  if e.isRequestError then Fault.under .invalidInput e.toFault else e.toFault

def createFeed (id description : String) (decimals : Nat) : Txn (PriceFeed × List Event) := do
  let f ← Txn.mapFault (fun e => match e with
      | .exists _ => Fault.under .invalidInput e.toFault
      | e => feedFault e)
    (Feed.create id description decimals)
  pure (f, [.feedCreated f.id f.description f.decimals])

def submitRound (now : Int) (id : String) (answer : Int) : Txn (Round × List Event) := do
  let r ← Txn.mapFault feedFault (Feed.submit id answer now)
  pure (r, [.feedRound (Text.trim id) r.id r.answer r.updatedAt])

end Issuance.Engine
