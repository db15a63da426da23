import Issuance.Engine.Basic
/-! # Queries and accounts

Reading the settings, the channels with the headroom their caps leave now,
accounts and feeds; and opening accounts, which anyone may do for an owner
other than the zero address. -/
namespace Issuance.Engine

open Store

def getAppConfig : Txn AppConfig := requireAppConfig

/-- The rolling period in hours, zero while there are no settings. -/
def rollingHours : Txn Nat := do
  match ← Txn.mapFault (Fault.within "load app config") Channel.appConfig with
  | some c => pure c.rollingPeriodHours
  | none => pure 0

def getMintChannel (now : Int) (id : ChannelId) : Txn (MintChannel × Nat) := do
  let some c ← Channel.mintChannel id
    | Txn.fail (Fault.raise .unavailable ("unknown mint channel " ++ id.toText))
  let h ← rollingHours
  pure (c, Channel.remaining c.counters h now)

def getBurnChannel (now : Int) (id : ChannelId) : Txn (BurnChannel × Nat) := do
  let some c ← Channel.burnChannel id
    | Txn.fail (Fault.raise .unavailable ("unknown burn channel " ++ id.toText))
  let h ← rollingHours
  pure (c, Channel.remaining c.counters h now)

def listMintChannels (now : Int) : Txn (List (MintChannel × Nat)) := do
  let cs ← Channel.mintChannels
  let h ← rollingHours
  pure (cs.map fun c => (c, Channel.remaining c.counters h now))

def listBurnChannels (now : Int) : Txn (List (BurnChannel × Nat)) := do
  let cs ← Channel.burnChannels
  let h ← rollingHours
  pure (cs.map fun c => (c, Channel.remaining c.counters h now))

def ownerRequired : Fault := Fault.raise .invalidInput "owner required"

/-- Open an account of an existing asset; a blank id takes the fresh one. -/
def openAccount (ctx : Context) (owner : Address) (id asset : String) : Txn (Account × List Event) := do
  let a ← bankStep (fun e => match e with
      | .assetNotFound _ | .accountExists _ => Fault.under .invalidInput e.toFault
      | e => e.toFault)
    (Bank.openAccount id owner asset ctx.fresh)
  pure (a, [.accountOpened a.id a.owner a.asset])

def account (id : String) : Txn Account := bankStep accountFault (Bank.account id)

def accountsByOwner (owner : Address) : Txn (List Account) := bankStep Bank.Error.toFault (Bank.accountsByOwner owner)

def listFeeds : Txn (List PriceFeed) := Txn.mapFault Feed.Error.toFault Feed.list

end Issuance.Engine
