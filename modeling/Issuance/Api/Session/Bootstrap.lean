import Issuance.Api.Session.Basic
import Issuance.Api.Manifest
import Issuance.Logging.Redact
/-! # Applying a manifest

The settings, the stable asset, then assets, feeds, accounts and channels,
each through the engine's operations and committed alone. What exists is
counted as found; the first failure stops the run and earlier commits stay.
The trail keeps each event with the database after it, each refusal and the
log lines. -/
namespace Issuance.Api

open Engine

inductive Happening
  | committed (e : Event) (db : Store.Database)
  | refused (op : String) (f : Fault)
  | logged (level : Logging.Level) (message : String) (fields : List (String × Json))

def committedEvents (hs : List Happening) : List Event :=
  hs.filterMap fun
    | .committed e _ => some e
    | _ => none

/-- Operations over a session, each committed on its own, with the trail
so far: a failure stops the run and keeps what came before. -/
abbrev Chain := EStateM Fault (Session × List Happening)

namespace Chain

def commit (name : String) (op : Store.Txn (α × List Event)) : Chain α := fun (s, hs) =>
  match runAtomic s.db op with
  | .ok (a, es, db) =>
    .ok a ({ s with db := db }, hs ++ if s.emitting then es.map (Happening.committed · db) else [])
  | .error f => .error f (s, hs ++ [.refused name f])

/-- Run an administrator's change; the caller is checked first. -/
def admin (caller : Address) (name : String) (op : Store.Txn (α × List Event)) : Chain α := fun st =>
  match st.1.engine.authorize caller with
  | .error f => .error f st
  | .ok () => commit name op st

def note (level : Logging.Level) (message : String) (fields : List (String × Json)) : Chain Unit :=
  fun (s, hs) => .ok () (s, hs ++ [.logged level message fields])

def query (op : Store.Txn α) : Chain α := fun st =>
  match runView st.1.db op with
  | .ok a => .ok a st
  | .error f => .error f st

def context : Chain Context := fun (s, evs) => .ok s.context (s.advanceSerial, evs)

def engine : Chain Engine := fun st => .ok st.1.engine st

def now : Chain Int := fun st => .ok st.1.now st

def fail (f : Fault) : Chain α := fun st => .error f st

def attempt (m : Chain α) : Chain (Except Fault α) := fun st =>
  match m st with
  | .ok a st' => .ok (.ok a) st'
  | .error f st' => .ok (.error f) st'

def within (context : String) (m : Chain α) : Chain α := fun st =>
  match m st with
  | .ok a st' => .ok a st'
  | .error f st' => .error (Fault.within context f) st'

end Chain

/-- What a run created and what it found in place, as `kind/id`. -/
structure Tally where
  created : List String := []
  skipped : List String := []

def Tally.made (t : Tally) (k : String) : Tally := { t with created := t.created ++ [k] }

def Tally.found (t : Tally) (k : String) : Tally := { t with skipped := t.skipped ++ [k] }

/-- The address an owner or authority names: none for blank, the custodial
signer for `custody`, else an account address. -/
def ownerOf (raw : String) (custody : Address) : Except String Address :=
  let t := Text.trim raw
  if t.isEmpty then .ok Address.zero
  else if t = custodyOwner then .ok custody
  else Address.parse t

def ensureAppConfig (operator custody : Address) : Chain AppConfig := do
  match ← Chain.attempt (Chain.query getAppConfig) with
  | .ok c =>
    if c.custodialSigner ≠ custody then
      Chain.note .warn "stored custodial signer differs from keystore"
        [("component", .str "bootstrap"), ("stored", .str c.custodialSigner.toText),
          ("keystore", .str custody.toText)]
    pure c
  | .error f =>
    if f.code = .unavailable then Chain.admin operator "create_app_config" (createAppConfig custody)
    else Chain.fail f

/-- The stable asset, created under the custodial signer if missing. -/
def ensureStableAsset (operator : Address) : Chain Unit := do
  let e ← Chain.engine
  let made := Chain.admin operator "create_asset" (createAsset e.stableAsset e.stableDecimals Address.zero)
  match ← Chain.attempt made with
  | .ok _ => pure ()
  | .error f =>
    if f.cause = some .assetExists then pure ()
    else Chain.fail (Fault.within ("bootstrap: stable asset " ++ e.stableAsset) f)

def applyAssets (operator custody : Address) : List AssetEntry → Tally → Chain Tally
  | [], t => pure t
  | a :: rest, t => do
    let authority ← match ownerOf a.authority custody with
      | .ok x => pure x
      | .error e => Chain.fail (Fault.plain ("bootstrap: asset " ++ a.id ++ " authority: " ++ e))
    match ← Chain.attempt (Chain.admin operator "create_asset" (createAsset a.id a.decimals authority)) with
    | .ok _ => applyAssets operator custody rest (t.made ("asset/" ++ a.id))
    | .error f =>
      if f.cause = some .assetExists then applyAssets operator custody rest (t.found ("asset/" ++ a.id))
      else Chain.fail (Fault.within ("bootstrap: asset " ++ a.id) f)

/-- Create the feeds that do not exist, each with its first round. -/
def applyFeeds (operator : Address) : List FeedEntry → Tally → Chain Tally
  | [], t => pure t
  | f :: rest, t => do
    match ← Chain.attempt (Chain.admin operator "create_feed" (createFeed f.id f.description f.decimals)) with
    | .ok _ =>
      match f.answer with
      | some a => do
        let now ← Chain.now
        let _ ← Chain.within ("bootstrap: feed " ++ f.id ++ " opening round")
          (Chain.admin operator "submit_round" (submitRound now f.id a))
        applyFeeds operator rest (t.made ("feed/" ++ f.id))
      | none => applyFeeds operator rest (t.made ("feed/" ++ f.id))
    | .error e =>
      if e.cause = some .feedExists then applyFeeds operator rest (t.found ("feed/" ++ f.id))
      else Chain.fail (Fault.within ("bootstrap: feed " ++ f.id) e)

def applyAccounts (custody : Address) : List AccountEntry → Tally → Chain Tally
  | [], t => pure t
  | a :: rest, t => do
    let owner ← match ownerOf a.owner custody with
      | .ok x => pure x
      | .error e => Chain.fail (Fault.plain ("bootstrap: account " ++ a.id ++ " owner: " ++ e))
    let opened ← Chain.attempt do
      if owner.isZero then Chain.fail ownerRequired
      let ctx ← Chain.context
      Chain.commit "open_account" (openAccount ctx owner a.id a.asset)
    match opened with
    | .ok _ => applyAccounts custody rest (t.made ("account/" ++ a.id))
    | .error f =>
      if f.cause = some .accountExists then applyAccounts custody rest (t.found ("account/" ++ a.id))
      else Chain.fail (Fault.within ("bootstrap: account " ++ a.id) f)

def applyMintChannels (operator : Address) : List MintChannelEntry → Tally → Chain Tally
  | [], t => pure t
  | c :: rest, t => do
    let path := Text.trim c.path
    let id := ChannelId.derive .mint path
    let now ← Chain.now
    match ← Chain.attempt (Chain.query (getMintChannel now id)) with
    | .ok _ => applyMintChannels operator rest (t.found ("mint/" ++ path))
    | .error f =>
      if f.code != .unavailable then Chain.fail (Fault.within ("bootstrap: mint channel " ++ path) f)
      else
        let settings ← match c.settings with
          | .ok s => pure s
          | .error e => Chain.fail (Fault.within ("bootstrap: mint channel " ++ path) e)
        let _ ← Chain.within ("bootstrap: create mint channel " ++ path)
          (Chain.admin operator "create_mint_channel" (createMintChannel path c.capacity))
        let now ← Chain.now
        let _ ← Chain.within ("bootstrap: configure mint channel " ++ path)
          (Chain.admin operator "set_mint_channel" (setMintChannel now id settings))
        applyMintChannels operator rest (t.made ("mint/" ++ path))

def applyBurnChannels (operator : Address) : List BurnChannelEntry → Tally → Chain Tally
  | [], t => pure t
  | c :: rest, t => do
    let path := Text.trim c.path
    let id := ChannelId.derive .burn path
    let now ← Chain.now
    match ← Chain.attempt (Chain.query (getBurnChannel now id)) with
    | .ok _ => applyBurnChannels operator rest (t.found ("burn/" ++ path))
    | .error f =>
      if f.code != .unavailable then Chain.fail (Fault.within ("bootstrap: burn channel " ++ path) f)
      else
        let _ ← Chain.within ("bootstrap: create burn channel " ++ path)
          (Chain.admin operator "create_burn_channel" (createBurnChannel path))
        let now ← Chain.now
        let _ ← Chain.within ("bootstrap: configure burn channel " ++ path)
          (Chain.admin operator "set_burn_channel" (setBurnChannel now id c.settings))
        applyBurnChannels operator rest (t.made ("burn/" ++ path))

def applyManifest (operator : Address) (m : Manifest) : Chain Tally := do
  let cfg ← Chain.within "bootstrap" (Chain.query getAppConfig)
  let hours := m.rollingPeriodHours
  let t : Tally := {}
  let t ← if hours ≠ 0 && hours ≠ cfg.rollingPeriodHours then do
      let _ ← Chain.within "bootstrap: rolling period"
        (Chain.admin operator "set_app_config" (setAppConfig hours))
      pure (t.made ("app_config/" ++ toString hours ++ "h"))
    else pure t
  let t ← applyAssets operator cfg.custodialSigner m.assets t
  let t ← applyFeeds operator m.feeds t
  let t ← applyAccounts cfg.custodialSigner m.accounts t
  let t ← applyMintChannels operator m.mintChannels t
  let t ← applyBurnChannels operator m.burnChannels t
  Chain.note .info "manifest applied"
    [("component", .str "bootstrap"), ("created", .nat t.created.length), ("skipped", .nat t.skipped.length)]
  pure t

/-- The answer of a run over a session: its result and its events, or its
failure with the events committed before it. -/
def Session.chain (s : Session) (m : Chain α) (view : α → Json) : Session × Outcome :=
  match m (s, []) with
  | .ok a (s', hs) => (s', .done (view a) (committedEvents hs))
  | .error f (s', hs) => (s', .stopped f (committedEvents hs))

def tallyJson (t : Tally) : Json :=
  obj [("created", .arr (t.created.map .str)), ("skipped", .arr (t.skipped.map .str))]

/-- The failure for an operator that is the zero address. -/
def operatorRequired : Fault := Fault.plain "bootstrap: operator address required"

/-- The answer of a manifest step `op`, or `none` when `op` is not one. -/
def bootstrapStep (s : Session) (j : Json) : String → Option (Read (Session × Outcome))
  | "bootstrap_ensure_app_config" => some do
    let operator ← address j "operator"
    let custody ← address j "custody"
    if operator.isZero then pure (s, .failed operatorRequired)
    else pure (s.chain (ensureAppConfig operator custody) appConfigJson)
  | "bootstrap_ensure_stable_asset" => some do
    let operator ← address j "operator"
    if operator.isZero then pure (s, .failed operatorRequired)
    else pure (s.chain (ensureStableAsset operator) fun _ => nothing)
  | "bootstrap_apply" => some do
    let operator ← address j "operator"
    if operator.isZero then pure (s, .failed operatorRequired)
    else if j.has "yaml" then
      match ← manifestOf j with
      | .error f => pure (s, .failed f)
      | .ok m => pure (s.chain (applyManifest operator m) tallyJson)
    else pure (s, .quiet (tallyJson {}))
  | _ => none

end Issuance.Api
