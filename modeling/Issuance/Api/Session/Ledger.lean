import Issuance.Api.Session.Storage
import Issuance.Api.Session.Control
/-! # Ledger scripts

A ledger script calls the channel ledger, the token ledger and the feed
registry directly in one transaction, each call answering on its own.
Readers that may find nothing say so instead of failing. -/
namespace Issuance.Api

open Store

inductive Book
  | channels
  | tokens
  | feeds

def Book.missing : Book → Fault
  | .channels => Fault.plain "factory: ledger not initialised"
  | .tokens => Fault.plain "bank: ledger not initialised"
  | .feeds => Fault.plain "feeds: registry not initialised"

def okJson (v : Json) : Json := obj [("ok", v)]

def notFound : Json := obj [("found", .bool false)]

def foundJson (view : α → Json) : Option α → Json
  | some a => okJson (view a)
  | none => notFound

/-- A call of a script: the ledger it calls, and either its malformed
channel identifier or what it does. -/
def ledgerCall (fresh : String) (j : Json) : Read (Book × Except Fault (Txn Json)) := do
  let call ← str j "call"
  match call with
  | "app_config" => pure (.channels, .ok do pure (foundJson appConfigJson (← Channel.appConfig)))
  | "put_app_config" =>
    let hours ← nat j "hours" 32
    let signer ← address j "signer"
    let absent ← bool j "nil"
    pure (.channels, .ok do
      if absent then Txn.fail (Fault.plain "factory: app config must not be nil")
      Channel.putAppConfig ⟨hours, signer⟩
      pure (okJson nothing))
  | "mint_channel" =>
    let c ← channelOf .mint j
    pure (.channels, c.map fun id => do pure (foundJson mintChannelJson (← Channel.mintChannel id)))
  | "burn_channel" =>
    let c ← channelOf .burn j
    pure (.channels, c.map fun id => do pure (foundJson burnChannelJson (← Channel.burnChannel id)))
  | "put_mint_channel" =>
    let path ← str j "path"
    let active ← bool j "active"
    let fee ← nat j "fee_bps" 16
    let zeroId ← bool j "zero_id"
    let absent ← bool j "nil"
    let id := if zeroId then ChannelId.zero else ChannelId.derive .mint (Text.trim path)
    pure (.channels, .ok do
      if absent then Txn.fail (Fault.plain "factory: mint channel id required")
      Channel.putMintChannel { id := id, path := path, active := active, capacity := 0, feeBps := fee }
      pure (okJson nothing))
  | "put_burn_channel" =>
    let path ← str j "path"
    let active ← bool j "active"
    let asset ← str j "output_asset"
    let zeroId ← bool j "zero_id"
    let absent ← bool j "nil"
    let id := if zeroId then ChannelId.zero else ChannelId.derive .burn (Text.trim path)
    pure (.channels, .ok do
      if absent then Txn.fail (Fault.plain "factory: burn channel id required")
      Channel.putBurnChannel { id := id, path := path, active := active, outputAsset := asset }
      pure (okJson nothing))
  | "mint_channels" =>
    pure (.channels, .ok do pure (okJson (.arr ((← Channel.mintChannels).map mintChannelJson))))
  | "burn_channels" =>
    pure (.channels, .ok do pure (okJson (.arr ((← Channel.burnChannels).map burnChannelJson))))
  | "create_asset" =>
    let id ← str j "id"
    let decimals ← nat j "decimals" 16
    let authority ← address j "authority"
    pure (.tokens, .ok do pure (okJson (assetJson (← bankCall (Bank.createAsset id decimals authority)))))
  | "asset" =>
    let id ← str j "id"
    pure (.tokens, .ok do pure (okJson (assetJson (← bankCall (Bank.asset id)))))
  | "account" =>
    let id ← str j "id"
    pure (.tokens, .ok do pure (okJson (accountJson (← bankCall (Bank.account id)))))
  | "open_account" =>
    let id ← str j "id"
    let owner ← address j "owner"
    let asset ← str j "asset"
    pure (.tokens, .ok do pure (okJson (accountJson (← bankCall (Bank.openAccount id owner asset fresh)))))
  | "accounts_by_owner" =>
    let owner ← address j "owner"
    pure (.tokens, .ok do pure (okJson (.arr ((← bankCall (Bank.accountsByOwner owner)).map accountJson))))
  | "transfer" =>
    let authority ← address j "authority"
    let source ← str j "from"
    let target ← str j "to"
    let amount ← nat j "amount" 64
    pure (.tokens, .ok do bankCall (Bank.transfer authority source target amount); pure (okJson nothing))
  | "mint_to" =>
    let authority ← address j "authority"
    let target ← str j "to"
    let amount ← nat j "amount" 64
    pure (.tokens, .ok do bankCall (Bank.mintTo authority target amount); pure (okJson nothing))
  | "burn" =>
    let authority ← address j "authority"
    let source ← str j "from"
    let amount ← nat j "amount" 64
    pure (.tokens, .ok do bankCall (Bank.burn authority source amount); pure (okJson nothing))
  | "set_mint_authority" =>
    let current ← address j "current"
    let asset ← str j "asset"
    let next ← address j "next"
    pure (.tokens, .ok do bankCall (Bank.setMintAuthority current asset next); pure (okJson nothing))
  | "create_feed" =>
    let id ← str j "id"
    let description ← str j "description"
    let decimals ← nat j "decimals" 8
    pure (.feeds, .ok do pure (okJson (feedJson (← feedCall (Feed.create id description decimals)))))
  | "submit_round" =>
    let id ← str j "id"
    let answer ← int j "answer"
    let time ← int j "at"
    pure (.feeds, .ok do pure (okJson (roundJson (← feedCall (Feed.submit id answer time)))))
  | "latest_round" =>
    let id ← str j "id"
    pure (.feeds, .ok do pure (okJson (roundJson (← feedCall (Feed.latest id)))))
  | "feed" =>
    let id ← str j "id"
    pure (.feeds, .ok do pure (okJson (feedJson (← feedCall (Feed.get id)))))
  | "feeds" => pure (.feeds, .ok do pure (okJson (.arr ((← feedCall Feed.list).map feedJson))))
  | _ => throw ("unknown ledger call " ++ Text.quoted call)

/-- A call as it runs: a malformed identifier fails first, then a missing
ledger. -/
def ledgerRun (missing : Bool) : Book × Except Fault (Txn Json) → Txn Json
  | (_, .error e) => pure (failure e)
  | (b, .ok t) =>
    if missing then pure (failure b.missing)
    else do
      match ← Txn.attempt t with
      | .ok j => pure j
      | .error f => pure (failure f)

def ledgerStep (s : Session) (j : Json) : Read (Session × Outcome) := do
  let calls ← list j "calls" pure
  let parsed ← calls.zipIdx.mapM fun (c, i) => ledgerCall (s.advanceBy i).fresh c
  let readOnly ← bool j "read_only"
  let failing ← bool j "fail"
  let missing ← bool j "nil_ledgers"
  let (s', o) := s.script (parsed.mapM (ledgerRun missing)) readOnly failing
  pure (s'.advanceBy calls.length, o)

/-- The answer of a ledger step `op`, or `none` when `op` is not one. -/
def ledgerSteps (s : Session) (j : Json) : String → Option (Read (Session × Outcome))
  | "ledger_calls" => some (ledgerStep s j)
  | _ => none

end Issuance.Api
