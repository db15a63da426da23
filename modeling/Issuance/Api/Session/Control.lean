import Issuance.Api.Session.Basic
/-! # Clock, rules and direct ledger steps

Steps that move the session clock, switch events off and on, replace the
planted storage failures, and call the token ledger, the feed registry and
the oracle directly, each in a transaction of its own. -/
namespace Issuance.Api

open Store

def bankCall (m : Bank.Step α) : Txn α := Txn.mapFault Bank.Error.toFault m

def feedCall (m : Feed.Step α) : Txn α := Txn.mapFault Feed.Error.toFault m

def fund (id : String) (amount : Nat) : Txn Unit := bankCall do
  let a ← Bank.account id
  let asset ← Bank.asset a.asset
  Bank.mintTo asset.mintAuthority a.id amount

/-- A copy of a mint channel at a derived path, its first leg one basis
point heavier. -/
def MintChannel.cloned (c : MintChannel) : MintChannel :=
  { c with
    path := c.path ++ "-clone"
    basket := match c.basket with
      | [] => []
      | l :: ls => { l with weightBps := l.weightBps + 1 } :: ls }

def BurnChannel.cloned (c : BurnChannel) : BurnChannel := { c with path := c.path ++ "-clone" }

def cloneJson (clone original : Json) : Json :=
  obj [("clone", clone), ("original", original), ("nil_clone_is_nil", .bool true)]

/-- The answer of a control step `op`, or `none` when `op` is not one. -/
def controlStep (s : Session) (j : Json) : String → Option (Read (Session × Outcome))
  | "set_time" => some do
    let now ← int j "now"
    pure ({ s with now := now }, .quiet (obj [("now", .int now)]))
  | "advance" => some do
    let d ← int j "seconds"
    let now := Feed.wrap (s.now + d)
    pure ({ s with now := now }, .quiet (obj [("now", .int now)]))
  | "set_emitter" => some do
    let off ← bool j "none"
    pure ({ s with emitting := !off }, .quiet nothing)
  | "set_clock_nil" => some (pure (s, .quiet nothing))
  | "set_faults" => some do
    let rules ← faultRules j
    pure ({ s with db := s.db.withFaults rules }, .quiet (obj [("rules", .nat rules.length)]))
  | "fund" => some do
    let id ← str j "account"
    let amount ← nat j "amount" 64
    pure (s.change (fund id amount) fun _ => nothing)
  | "bank_mint_to" => some do
    let authority ← address j "authority"
    let id ← str j "account"
    let amount ← nat j "amount" 64
    pure (s.change (bankCall (Bank.mintTo authority id amount)) fun _ => nothing)
  | "bank_transfer" => some do
    let authority ← address j "authority"
    let source ← str j "from"
    let target ← str j "to"
    let amount ← nat j "amount" 64
    pure (s.change (bankCall (Bank.transfer authority source target amount)) fun _ => nothing)
  | "bank_burn" => some do
    let authority ← address j "authority"
    let id ← str j "account"
    let amount ← nat j "amount" 64
    pure (s.change (bankCall (Bank.burn authority id amount)) fun _ => nothing)
  | "bank_set_mint_authority" => some do
    let current ← address j "current"
    let asset ← str j "asset"
    let next ← address j "next"
    pure (s.change (bankCall (Bank.setMintAuthority current asset next)) fun _ => nothing)
  | "bank_create_asset" => some do
    let id ← str j "id"
    let decimals ← nat j "decimals" 16
    let authority ← address j "authority"
    pure (s.change (bankCall (Bank.createAsset id decimals authority)) assetJson)
  | "bank_open_account" => some do
    let id ← str j "id"
    let owner ← address j "owner"
    let asset ← str j "asset"
    let (s', o) := s.change (bankCall (Bank.openAccount id owner asset s.fresh)) accountJson
    pure (s'.advanceSerial, o)
  | "bank_asset" => some do
    let id ← str j "id"
    pure (s.query (bankCall (Bank.asset id)) assetJson)
  | "bank_account" => some do
    let id ← str j "id"
    pure (s.query (bankCall (Bank.account id)) accountJson)
  | "feed_get" => some do
    let id ← str j "id"
    pure (s.query (feedCall (Feed.get id)) feedJson)
  | "feed_latest" => some do
    let id ← str j "id"
    pure (s.query (feedCall (Feed.latest id)) roundJson)
  | "read_price" => some do
    let configured ← str j "configured"
    let supplied ← str j "supplied"
    let kind ← str j "oracle"
    let o : Oracle := ⟨kind.isEmpty, s.engine.oracleMaxAge, s.now⟩
    pure (s.query (o.readPrice configured supplied) priceJson)
  | "app_config_window" => some do
    pure (s.query Engine.getAppConfig fun c => obj [("seconds", .nat c.windowSeconds)])
  | "clone_channel" => some do
    let kind ← str j "kind"
    match kind with
    | "mint" =>
      let c ← channelOf .mint j
      pure (match c with
        | .error e => (s, .failed e)
        | .ok id => s.query (Engine.getMintChannel s.now id) fun (c, _) =>
          cloneJson (mintChannelJson (MintChannel.cloned c)) (mintChannelJson c))
    | "burn" =>
      let c ← channelOf .burn j
      pure (match c with
        | .error e => (s, .failed e)
        | .ok id => s.query (Engine.getBurnChannel s.now id) fun (c, _) =>
          cloneJson (burnChannelJson (BurnChannel.cloned c)) (burnChannelJson c))
    | _ => throw ("unknown channel kind " ++ Text.quoted kind)
  | _ => none

end Issuance.Api
