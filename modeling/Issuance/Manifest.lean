import Issuance.Yaml.Decode
import Issuance.Channel.Basic
/-! # Manifests

Rolling period, assets, feeds, accounts and channels, from a YAML document
whose keys must be known. Channels have distinct paths per kind, a basket as
legs or parallel arrays; accounts name an owner. -/
namespace Issuance

/-- An asset to create; an empty authority means the custodial signer. -/
structure AssetEntry where
  id : String := ""
  decimals : Nat := 0
  authority : String := ""
  deriving DecidableEq, Repr

/-- A feed to create, with the answer of its first round if one is given. -/
structure FeedEntry where
  id : String := ""
  description : String := ""
  decimals : Nat := 0
  answer : Option Int := none
  deriving DecidableEq, Repr

/-- An account to open; the owner is an account address or `custody`. -/
structure AccountEntry where
  id : String := ""
  owner : String := ""
  asset : String := ""
  deriving DecidableEq, Repr

/-- A mint channel to create and configure; the basket is given as legs or
as parallel arrays. -/
structure MintChannelEntry where
  path : String := ""
  capacity : Nat := 0
  active : Bool := false
  feeBps : Nat := 0
  limits : Limits := {}
  basket : List Leg := []
  assets : List String := []
  decimals : List Nat := []
  weights : List Nat := []
  feeds : List String := []
  deriving DecidableEq, Repr

def MintChannelEntry.usesLegacy (c : MintChannelEntry) : Bool :=
  !c.assets.isEmpty || !c.decimals.isEmpty || !c.weights.isEmpty || !c.feeds.isEmpty

structure BurnChannelEntry where
  path : String := ""
  active : Bool := false
  outputAsset : String := ""
  outputDecimals : Nat := 0
  outputFeed : String := ""
  feeBps : Nat := 0
  limits : Limits := {}
  deriving DecidableEq, Repr

structure Manifest where
  rollingPeriodHours : Nat := 0
  assets : List AssetEntry := []
  feeds : List FeedEntry := []
  accounts : List AccountEntry := []
  mintChannels : List MintChannelEntry := []
  burnChannels : List BurnChannelEntry := []
  deriving DecidableEq, Repr

def custodyOwner : String := "custody"

namespace Manifest

open Yaml

def limitFields (get : σ → Limits) (put : σ → Limits → σ) : List (Yaml.Field σ) :=
  [.of "lifetime_cap" (.unsigned 64 "uint64") (fun r => (get r).lifetimeCap)
      fun r v => put r { get r with lifetimeCap := v },
    .of "period_cap" (.unsigned 64 "uint64") (fun r => (get r).periodCap)
      fun r v => put r { get r with periodCap := v },
    .of "min_request_amount" (.unsigned 64 "uint64") (fun r => (get r).minRequestAmount)
      fun r v => put r { get r with minRequestAmount := v }]

def legTarget : Target Leg :=
  .record "config.ManifestLeg"
    [.of "asset" .text (·.asset) fun r v => { r with asset := v },
      .of "decimals" (.unsigned 16 "uint16") (·.decimals) fun r v => { r with decimals := v },
      .of "weight_bps" (.unsigned 16 "uint16") (·.weightBps) fun r v => { r with weightBps := v },
      .of "price_feed" .text (·.priceFeed) fun r v => { r with priceFeed := v }]

def assetTarget : Target AssetEntry :=
  .record "config.ManifestAsset"
    [.of "id" .text (·.id) fun r v => { r with id := v },
      .of "decimals" (.unsigned 16 "uint16") (·.decimals) fun r v => { r with decimals := v },
      .of "authority" .text (·.authority) fun r v => { r with authority := v }]

/-- How a feed entry is decoded; its answer is optional. -/
def feedTarget : Target FeedEntry :=
  .record "config.ManifestFeed"
    [.of "id" .text (·.id) fun r v => { r with id := v },
      .of "description" .text (·.description) fun r v => { r with description := v },
      .of "decimals" (.unsigned 8 "uint8") (·.decimals) fun r v => { r with decimals := v },
      .of "answer" (.optional .signed 0) (·.answer) fun r v => { r with answer := v }]

def accountTarget : Target AccountEntry :=
  .record "config.ManifestAccount"
    [.of "id" .text (·.id) fun r v => { r with id := v },
      .of "owner" .text (·.owner) fun r v => { r with owner := v },
      .of "asset" .text (·.asset) fun r v => { r with asset := v }]

def mintChannelTarget : Target MintChannelEntry :=
  .record "config.MintChannelSpec"
    ([.of "path" .text (·.path) fun r v => { r with path := v },
      .of "capacity" (.unsigned 16 "uint16") (·.capacity) fun r v => { r with capacity := v },
      .of "active" .flag (·.active) fun r v => { r with active := v },
      .of "fee_bps" (.unsigned 16 "uint16") (·.feeBps) fun r v => { r with feeBps := v }] ++
      limitFields (·.limits) (fun r l => { r with limits := l }) ++
      [.of "basket" (.list legTarget ⟨"", 0, 0, ""⟩) (·.basket) fun r v => { r with basket := v },
        .of "assets" (.list .text "") (·.assets) fun r v => { r with assets := v },
        .of "decimals" (.list (.unsigned 16 "uint16") 0) (·.decimals) fun r v => { r with decimals := v },
        .of "weights_bps" (.list (.unsigned 16 "uint16") 0) (·.weights) fun r v => { r with weights := v },
        .of "price_feeds" (.list .text "") (·.feeds) fun r v => { r with feeds := v }])

def burnChannelTarget : Target BurnChannelEntry :=
  .record "config.BurnChannelSpec"
    ([.of "path" .text (·.path) fun r v => { r with path := v },
      .of "active" .flag (·.active) fun r v => { r with active := v },
      .of "output_asset" .text (·.outputAsset) fun r v => { r with outputAsset := v },
      .of "output_decimals" (.unsigned 16 "uint16") (·.outputDecimals) fun r v => { r with outputDecimals := v },
      .of "output_feed" .text (·.outputFeed) fun r v => { r with outputFeed := v },
      .of "fee_bps" (.unsigned 16 "uint16") (·.feeBps) fun r v => { r with feeBps := v }] ++
      limitFields (·.limits) (fun r l => { r with limits := l }))

def target : Target Manifest :=
  .record "config.Manifest"
    [.of "rolling_period_hours" (.unsigned 32 "uint32") (·.rollingPeriodHours)
        fun r v => { r with rollingPeriodHours := v },
      .of "assets" (.list assetTarget {}) (·.assets) fun r v => { r with assets := v },
      .of "feeds" (.list feedTarget {}) (·.feeds) fun r v => { r with feeds := v },
      .of "accounts" (.list accountTarget {}) (·.accounts) fun r v => { r with accounts := v },
      .of "mint_channels" (.list mintChannelTarget {}) (·.mintChannels) fun r v => { r with mintChannels := v },
      .of "burn_channels" (.list burnChannelTarget {}) (·.burnChannels) fun r v => { r with burnChannels := v }]

def check (m : Manifest) : Except String Unit := do
  let rec mints : List MintChannelEntry → List String → Except String Unit
    | [], _ => pure ()
    | c :: cs, seen => do
      let p := Text.trim c.path
      if p.isEmpty then throw "manifest: mint channel path required"
      if seen.contains p then throw ("manifest: mint channel " ++ Text.quoted p ++ " declared twice")
      if c.usesLegacy && !c.basket.isEmpty then
        throw ("manifest: mint channel " ++ Text.quoted p ++ " mixes basket and parallel arrays")
      mints cs (p :: seen)
  let rec burns : List BurnChannelEntry → List String → Except String Unit
    | [], _ => pure ()
    | c :: cs, seen => do
      let p := Text.trim c.path
      if p.isEmpty then throw "manifest: burn channel path required"
      if seen.contains p then throw ("manifest: burn channel " ++ Text.quoted p ++ " declared twice")
      burns cs (p :: seen)
  mints m.mintChannels []
  burns m.burnChannels []
  for a in m.accounts do
    if Text.isBlankText a.owner then throw ("manifest: account " ++ Text.quoted a.id ++ " needs an owner")

/-- A manifest read from the first document of a text and checked; a text
without a document is the end of input. -/
def parse (text : String) : Except String Manifest := do
  let doc ← match Yaml.Document.read text with
    | .ok d => pure d
    | .error e => throw ("decode manifest: " ++ e.message)
  match doc with
  | none => throw "decode manifest: EOF"
  | some d =>
    let (m, notes) ← match d.decode target {} with
      | .ok r => pure r
      | .error e => throw ("decode manifest: " ++ e)
    if !notes.isEmpty then
      throw ("decode manifest: yaml: unmarshal errors:\n  " ++ "\n  ".intercalate notes)
    check m
    pure m

end Manifest

/-- The basket a mint channel entry declares, as configured: the parallel
arrays made into legs when they are used, else the legs as written. -/
def MintChannelEntry.legs (c : MintChannelEntry) : Except Fault (List Leg) :=
  if c.usesLegacy then LegacyBasket.legs ⟨c.assets, c.decimals, c.weights, c.feeds⟩
  else .ok c.basket

def MintChannelEntry.settings (c : MintChannelEntry) : Except Fault MintSettings := do
  pure ⟨c.active, ← c.legs, c.feeBps, c.limits⟩

def BurnChannelEntry.settings (c : BurnChannelEntry) : BurnSettings :=
  ⟨c.active, c.outputAsset, c.outputDecimals, c.outputFeed, c.feeBps, c.limits⟩

end Issuance
