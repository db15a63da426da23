import Issuance.Api.Session.Basic
/-! # Engine steps

Each step reads its fields and runs its operation as one transaction; an
administrator's operation checks the caller first. -/
namespace Issuance.Api

open Engine

def legOf (j : Json) : Read Leg := do
  pure ⟨← str j "asset", ← nat j "decimals" 16, ← nat j "weight_bps" 16, ← str j "price_feed"⟩

def routeOf (j : Json) : Read Channel.Route := do
  pure ⟨← str j "asset", ← str j "source", ← str j "destination", ← str j "feed"⟩

def burnRouteOf (j : Json) : Read BurnRoute := do
  pure ⟨← str j "stable_source", ← str j "stable_custody", ← str j "output_source",
    ← str j "output_destination", ← str j "feed"⟩

def limitsOf (j : Json) : Read Limits := do
  pure ⟨← nat j "lifetime_cap" 64, ← nat j "period_cap" 64, ← nat j "min_request_amount" 64⟩

/-- The basket of a mint channel setting: the parallel arrays of `legacy`
when given, else the legs of `basket`. -/
def basketOf (j : Json) : Read (Except Fault (List Leg)) := do
  if j.has "legacy" then
    let l := objField j "legacy"
    pure (LegacyBasket.legs ⟨← strs l "assets", ← nats l "decimals" 16, ← nats l "weights_bps" 16,
      ← strs l "price_feeds"⟩)
  else pure (.ok (← list j "basket" legOf))

def withChannel (s : Session) (c : Except Fault ChannelId) (f : ChannelId → Session × Outcome) :
    Session × Outcome :=
  match c with
  | .ok id => f id
  | .error e => (s, .failed e)

/-- The answer of an engine step `op`, or `none` when `op` is not one. -/
def engineStep (s : Session) (j : Json) : String → Option (Read (Session × Outcome))
  | "create_app_config" => some do
    let caller ← address j "caller"
    let signer ← address j "custodial_signer"
    pure (s.admin caller (createAppConfig signer) appConfigJson)
  | "set_app_config" => some do
    let caller ← address j "caller"
    let hours ← nat j "hours" 32
    pure (s.admin caller (setAppConfig hours) appConfigJson)
  | "get_app_config" => some (pure (s.query getAppConfig appConfigJson))
  | "create_asset" => some do
    let caller ← address j "caller"
    let id ← str j "id"
    let decimals ← nat j "decimals" 16
    let authority ← address j "authority"
    pure (s.admin caller (createAsset id decimals authority) assetJson)
  | "create_feed" => some do
    let caller ← address j "caller"
    let id ← str j "id"
    let description ← str j "description"
    let decimals ← nat j "decimals" 8
    pure (s.admin caller (createFeed id description decimals) feedJson)
  | "submit_round" => some do
    let caller ← address j "caller"
    let id ← str j "id"
    let answer ← int j "answer"
    pure (s.admin caller (submitRound s.now id answer) roundJson)
  | "open_account" => some do
    let owner ← address j "owner"
    let id ← str j "id"
    let asset ← str j "asset"
    if owner.isZero then pure (s, .failed ownerRequired)
    else
      let (s', o) := s.commit (openAccount s.context owner id asset) accountJson
      pure (s'.advanceSerial, o)
  | "account" => some do
    let id ← str j "id"
    pure (s.query (account id) accountJson)
  | "accounts_by_owner" => some do
    let owner ← address j "owner"
    pure (s.query (accountsByOwner owner) fun as => .arr (as.map accountJson))
  | "list_feeds" => some (pure (s.query listFeeds fun fs => .arr (fs.map feedJson)))
  | "create_mint_channel" => some do
    let caller ← address j "caller"
    let path ← str j "path"
    let capacity ← nat j "capacity" 16
    pure (s.admin caller (createMintChannel path capacity) mintChannelJson)
  | "set_mint_channel" => some do
    let caller ← address j "caller"
    let c ← channelOf .mint j
    let active ← bool j "active"
    let fee ← nat j "fee_bps" 16
    let limits ← limitsOf j
    let basket ← basketOf j
    pure (withChannel s c fun id =>
      match basket with
      | .error e => (s, .failed e)
      | .ok legs => s.admin caller (setMintChannel s.now id ⟨active, legs, fee, limits⟩) mintChannelJson)
  | "create_burn_channel" => some do
    let caller ← address j "caller"
    let path ← str j "path"
    pure (s.admin caller (createBurnChannel path) burnChannelJson)
  | "set_burn_channel" => some do
    let caller ← address j "caller"
    let c ← channelOf .burn j
    let active ← bool j "active"
    let asset ← str j "output_asset"
    let decimals ← nat j "output_decimals" 16
    let feed ← str j "output_feed"
    let fee ← nat j "fee_bps" 16
    let limits ← limitsOf j
    pure (withChannel s c fun id =>
      s.admin caller (setBurnChannel s.now id ⟨active, asset, decimals, feed, fee, limits⟩) burnChannelJson)
  | "get_mint_channel" => some do
    let c ← channelOf .mint j
    pure (withChannel s c fun id => s.query (getMintChannel s.now id) mintStatusJson)
  | "get_burn_channel" => some do
    let c ← channelOf .burn j
    pure (withChannel s c fun id => s.query (getBurnChannel s.now id) burnStatusJson)
  | "list_mint_channels" => some (pure (s.query (listMintChannels s.now) fun cs => .arr (cs.map mintStatusJson)))
  | "list_burn_channels" => some (pure (s.query (listBurnChannels s.now) fun cs => .arr (cs.map burnStatusJson)))
  | "mint" => some do
    let c ← channelOf .mint j
    let requester ← address j "requester"
    let amount ← nat j "amount" 64
    let recipient ← str j "recipient"
    let legs ← list j "legs" routeOf
    pure (withChannel s c fun id =>
      let (s', o) := s.commit (mint s.engine s.context ⟨id, requester, amount, legs, recipient⟩) mintReceiptJson
      (s'.advanceSerial, o))
  | "burn" => some do
    let c ← channelOf .burn j
    let requester ← address j "requester"
    let amount ← nat j "amount" 64
    let route ← burnRouteOf (objField j "route")
    pure (withChannel s c fun id =>
      let (s', o) := s.commit (burn s.engine s.context ⟨id, requester, amount, route⟩) burnReceiptJson
      (s'.advanceSerial, o))
  | "quote_mint" => some do
    let c ← channelOf .mint j
    let amount ← nat j "amount" 64
    pure (withChannel s c fun id => s.query (quoteMint s.engine s.context id amount) mintQuoteJson)
  | "quote_burn" => some do
    let c ← channelOf .burn j
    let amount ← nat j "amount" 64
    pure (withChannel s c fun id => s.query (quoteBurn s.engine s.context id amount) burnQuoteJson)
  | "withdraw_fee" => some do
    let caller ← address j "caller"
    let source ← str j "source"
    let destination ← str j "destination"
    let amount ← nat j "amount" 64
    pure (s.admin caller (withdrawFee source destination amount) withdrawalJson)
  | "release_asset_custody" => some do
    let caller ← address j "caller"
    let asset ← str j "asset"
    let next ← address j "new_authority"
    pure (s.admin caller (releaseAssetCustody asset next) fun _ => nothing)
  | _ => none

end Issuance.Api
