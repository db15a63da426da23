import Mathlib
import Issuance.Proofs.Engine.StableSupply
import Issuance.Proofs.Engine.Listing
/-! # Releasing custody is final

The custodial signer holds the mint authority of the assets the engine
creates; a release hands it on and no operation hands it back, and only a
mint under the signer raises a supply. So a released stable asset is never
issued again (`mintPlan`, `issueStable`). -/
namespace Issuance

open Store Txn Bank Channel Engine

/-! ## Reads on a transaction that answers every call -/

section
variable {tx : Tx}

theorem Store.Txn.read_of_recordAt {α : Type} {shape : Rlp.Shape} {of : Rlp.Value → α} {k : Bytes} {a : α}
    (hraw : tx.raw k = .ok (tx.lookup k)) (hk : k ≠ []) (h : recordAt shape of tx.lookup k = some a) :
    ∃ v, read shape k tx = .ok (some v, tx) ∧ of v = a := by
  change (found tx k).bind (fun b => (Rlp.decode shape b).toOption.map of) = some a at h
  cases hf : found tx k with
  | none => simp [hf] at h
  | some b =>
    cases hd : Rlp.decode shape b with
    | error e => simp [hf, hd, Except.toOption] at h
    | ok v =>
      simp only [hf, hd, Except.toOption, Option.bind_some, Option.map_some, Option.some.injEq] at h
      refine ⟨v, ?_, h⟩
      unfold read
      simp only [bind, StateT.bind, rawGet_eq hraw, if_neg hk, Except.bind, hf, hd]
      rfl

theorem Bank.account_eq {id : String} {x : Account} (hraw : ∀ k, tx.raw k = .ok (tx.lookup k))
    (hid : Text.trim id ≠ "") (h : accountIn tx.lookup (Text.trim id) = some x) : Bank.account id tx = .ok (x, tx) := by
  obtain ⟨v, hv, rfl⟩ := Txn.read_of_recordAt (hraw _) (by simp [accountKey, accountPrefix_eq]) h
  unfold Bank.account
  simp [hid, io, Txn.mapFault, hv, bind, StateT.bind, Except.bind, pure, StateT.pure, Except.pure]

theorem Bank.asset_eq {id : String} {a : Asset} (hraw : ∀ k, tx.raw k = .ok (tx.lookup k))
    (h : assetIn tx.lookup (Text.trim id) = some a) : Bank.asset id tx = .ok (a, tx) := by
  obtain ⟨v, hv, rfl⟩ := Txn.read_of_recordAt (hraw _) (by simp [assetKey, assetPrefix_eq]) h
  unfold Bank.asset
  simp [io, Txn.mapFault, hv, bind, StateT.bind, Except.bind, pure, StateT.pure, Except.pure]

theorem Bank.mintTo_refused {auth : Address} {target : String} {amount : Nat} {d : Account} {a : Asset}
    (hraw : ∀ k, tx.raw k = .ok (tx.lookup k)) (hd : accountIn tx.lookup (Text.trim target) = some d)
    (ha : assetIn tx.lookup (Text.trim d.asset) = some a) (hauth : a.mintAuthority ≠ auth) :
    ∃ err, Bank.mintTo auth target amount tx = .error err ∧ (accountFault err).code = .invalidAccount := by
  by_cases hid : Text.trim target = ""
  · -- a blank name finds no account
    refine ⟨.accountNotFound "empty id", ?_, rfl⟩
    unfold Bank.mintTo Bank.account
    simp [hid, bind, StateT.bind, Except.bind, Bank.fail]
  · refine ⟨.notMintAuthority a.id, ?_, rfl⟩
    unfold Bank.mintTo
    simp [bind, StateT.bind, Except.bind, Bank.account_eq hraw hid hd, Bank.asset_eq hraw ha, hauth, Bank.fail]

end

/-! ## What a step may do to the assets -/

/-- From `L` to `L'` no asset went missing, and an asset whose mint authority
is not `signer` kept its authority and gained no supply. -/
def AssetsHeld (signer : Address) (L L' : Bytes → Option Bytes) : Prop :=
  ∀ i x, assetIn L i = some x → ∃ x', assetIn L' i = some x' ∧
    (x.mintAuthority = signer ∨ x'.mintAuthority = x.mintAuthority ∧ x'.supply ≤ x.supply)

namespace AssetsHeld

variable {signer : Address} {L L' L'' : Bytes → Option Bytes} {tx tx' : Tx}

theorem refl (signer : Address) (L : Bytes → Option Bytes) : AssetsHeld signer L L :=
  fun _ x hx => ⟨x, hx, .inr ⟨rfl, le_rfl⟩⟩

theorem trans (h : AssetsHeld signer L L') (h' : AssetsHeld signer L' L'') : AssetsHeld signer L L'' := by
  intro i x hx
  obtain ⟨x', hx', hmove⟩ := h i x hx
  obtain ⟨x'', hx'', hmove'⟩ := h' i x' hx'
  refine ⟨x'', hx'', ?_⟩
  rcases hmove with hsigner | ⟨hauth, hsup⟩
  · exact .inl hsigner
  · rcases hmove' with hsigner' | ⟨hauth', hsup'⟩
    · exact .inl (hauth ▸ hsigner')
    · exact .inr ⟨hauth'.trans hauth, hsup'.trans hsup⟩

theorem of_stages {P : Bytes → Prop} (h : tx.Stages P tx') (hP : ∀ k, P k → ∀ i, k ≠ assetKey i) :
    AssetsHeld signer tx.lookup tx'.lookup := by
  intro i x hx
  refine ⟨x, ?_, .inr ⟨rfl, le_rfl⟩⟩
  rw [assetIn, recordAt_of_stages h fun hk => hP _ hk i rfl]
  exact hx

theorem of_accounts (h : tx.Stages (fun k => ∃ j, k = accountKey j) tx') : AssetsHeld signer tx.lookup tx'.lookup :=
  of_stages h fun k hk i => by
    obtain ⟨j, rfl⟩ := hk
    simp

theorem of_outside_bank {P : Bytes → Prop} (h : tx.Stages P tx') (hP : ∀ k, P k → ¬ Bank.IsKey k) :
    AssetsHeld signer tx.lookup tx'.lookup :=
  of_stages h fun k hk i he => hP k hk (he ▸ isKey_asset i)

/-- Rewriting an asset, found under its own name, as `a'` holds the assets
when the rewrite moves it as the signer may. -/
theorem restaged {a a' : Asset} (ha : assetIn tx.lookup a.id = some a) (hst : a'.Storable)
    (hmove : a.mintAuthority = signer ∨ a'.mintAuthority = a.mintAuthority ∧ a'.supply ≤ a.supply) :
    AssetsHeld signer tx.lookup (tx.restaged (assetKey a.id) (some (Rlp.encode (assetValue a')))).lookup := by
  intro i x hx
  rw [assetIn_restaged_asset hst]
  split
  · rename_i hi
    subst hi
    rw [ha] at hx
    cases hx
    exact ⟨a', rfl, hmove⟩
  · exact ⟨x, hx, .inr ⟨rfl, le_rfl⟩⟩

/-! ### The bank's steps -/

theorem createAsset {id : String} {decimals : Nat} {authority : Address} {a : Asset}
    (h : Returns (Bank.createAsset id decimals authority) tx a tx') : AssetsHeld signer tx.lookup tx'.lookup := by
  obtain ⟨-, hnone, rfl, rfl⟩ := Bank.createAsset_returns h
  -- the new asset takes a key that held nothing, so every asset found is another
  have hfree : assetIn tx.lookup (Text.trim id) = none := by
    simp only [assetIn, recordAt]
    exact congrArg (Option.bind · _) hnone
  intro i x hx
  have hne : assetKey i ≠ assetKey (Text.trim id) := by
    intro he
    rw [(assetKey_inj _ _).mp he, hfree] at hx
    cases hx
  exact ⟨x, by rw [assetIn_restaged_of_ne hne]; exact hx, .inr ⟨rfl, le_rfl⟩⟩

theorem openAccount {id assetId fresh : String} {owner : Address} {x : Account}
    (h : Returns (Bank.openAccount id owner assetId fresh) tx x tx') : AssetsHeld signer tx.lookup tx'.lookup := by
  obtain ⟨-, -, -, rfl⟩ := Bank.openAccount_returns h
  exact of_accounts (.restaged ⟨_, rfl⟩ _)

theorem transfer {auth : Address} {source target : String} {amount : Nat} {u : Unit}
    (h : Returns (Bank.transfer auth source target amount) tx u tx') : AssetsHeld signer tx.lookup tx'.lookup :=
  of_accounts (transfer_stages h)

theorem mintTo {target : String} {amount : Nat} {u : Unit} (hs : Bank.Sound tx.lookup)
    (h : Returns (Bank.mintTo signer target amount) tx u tx') : AssetsHeld signer tx.lookup tx'.lookup := by
  obtain ⟨d, a, -, ha, hauth, hsup, -, rfl⟩ := mintTo_returns h
  obtain ⟨hid, -, hst⟩ := hs.asset _ a ha
  rw [← hid] at ha
  have hst' : ({ a with supply := a.supply + amount } : Asset).Storable := ⟨hst.id, hst.decimals, hsup⟩
  exact (restaged ha hst' (.inl hauth)).trans (of_accounts (.restaged ⟨_, rfl⟩ _))

theorem burn {auth : Address} {source : String} {amount : Nat} {u : Unit} (hs : Bank.Sound tx.lookup)
    (h : Returns (Bank.burn auth source amount) tx u tx') : AssetsHeld signer tx.lookup tx'.lookup := by
  obtain ⟨s, a, -, -, -, ha, rfl⟩ := Bank.burn_returns h
  obtain ⟨hid, -, hst⟩ := hs.asset _ a ha
  rw [← hid] at ha
  exact (restaged ha (hst.retire amount) (.inr ⟨rfl, Nat.sub_le _ _⟩)).trans (of_accounts (.restaged ⟨_, rfl⟩ _))

theorem setMintAuthority {assetId : String} {next : Address} {u : Unit} (hs : Bank.Sound tx.lookup)
    (h : Returns (Bank.setMintAuthority signer assetId next) tx u tx') : AssetsHeld signer tx.lookup tx'.lookup := by
  obtain ⟨a, ha, hauth, rfl⟩ := setMintAuthority_returns h
  obtain ⟨hid, -, hst⟩ := hs.asset _ a ha
  rw [← hid] at ha
  have hst' : ({ a with mintAuthority := next } : Asset).Storable := ⟨hst.id, hst.decimals, hst.supply⟩
  exact restaged ha hst' (.inl hauth)

end AssetsHeld

namespace AssetsHeld

variable {signer : Address} {tx : Tx}

theorem restaged_outside {k : Bytes} (hk : ¬ Bank.IsKey k) (v : Option Bytes) :
    AssetsHeld signer tx.lookup (tx.restaged k v).lookup :=
  of_outside_bank (.restaged rfl v) fun _ h => h ▸ hk

end AssetsHeld

/-! ## What each operation does to the settings and the assets -/

/-- The settings are there and name `signer` as the custodial signer. -/
def SignerIs (signer : Address) (L : Bytes → Option Bytes) : Prop :=
  ∃ cfg : AppConfig, appConfigIn L = some cfg ∧ cfg.custodialSigner = signer

theorem appConfigOf_appConfigValue (c : AppConfig) : appConfigOf (appConfigValue c) = c := by
  simp [appConfigOf, appConfigValue, numOf, bytesOf, Address.ofBytes?, c.custodialSigner.size]

namespace SignerIs

variable {signer : Address} {tx tx' : Tx}

theorem of_stages {P : Bytes → Prop} (h : tx.Stages P tx') (hP : ∀ k, P k → k ≠ appConfigKey)
    (hs : SignerIs signer tx.lookup) : SignerIs signer tx'.lookup := by
  rwa [SignerIs, appConfigIn, recordAt_of_stages h fun hk => hP _ hk rfl]

theorem of_bank {P : Bytes → Prop} (h : tx.Stages P tx') (hP : ∀ k, P k → Bank.IsKey k)
    (hs : SignerIs signer tx.lookup) : SignerIs signer tx'.lookup :=
  hs.of_stages h fun k hk he => not_isKey_appConfigKey (he ▸ hP k hk)

theorem restaged {k : Bytes} (hk : k ≠ appConfigKey) (v : Option Bytes) (hs : SignerIs signer tx.lookup) :
    SignerIs signer (tx.restaged k v).lookup :=
  hs.of_stages (.restaged rfl v) fun _ h => h ▸ hk

theorem putMintChannel {c : MintChannel} {u : Unit} (h : Returns (Channel.putMintChannel c) tx u tx')
    (hs : SignerIs signer tx.lookup) : SignerIs signer tx'.lookup :=
  hs.of_stages (putMintChannel_stages h) (by rintro k (rfl | rfl); exacts [by simp, Ne.symm (by simp)])

theorem putBurnChannel {c : BurnChannel} {u : Unit} (h : Returns (Channel.putBurnChannel c) tx u tx')
    (hs : SignerIs signer tx.lookup) : SignerIs signer tx'.lookup :=
  hs.of_stages (putBurnChannel_stages h) (by rintro k (rfl | rfl); exacts [by simp, Ne.symm (by simp)])

end SignerIs

namespace Engine

variable {e : Engine} {ctx : Context} {tx tx' : Tx}

theorem setAppConfig_rewrites {hours : Nat} {r : AppConfig × List Event} (h : Returns (setAppConfig hours) tx r tx') :
    ∃ c : AppConfig, appConfigIn tx.lookup = some c ∧
      tx' = tx.restaged appConfigKey (some (Rlp.encode (appConfigValue { c with rollingPeriodHours := hours }))) := by
  unfold setAppConfig at h
  obtain ⟨-, h1⟩ := Returns.guard h
  obtain ⟨c, t1, hc, h2⟩ := Returns.bind h1
  obtain ⟨rfl, hcfg⟩ := requireAppConfig_returns hc
  obtain ⟨t2, h3, h4⟩ := Returns.seq h2
  obtain ⟨-, rfl⟩ := Returns.pure h4
  exact ⟨c, hcfg, putAppConfig_returns h3⟩

theorem releaseAssetCustody_hands_on {asset : String} {next : Address} {r : Unit × List Event}
    (h : Returns (releaseAssetCustody asset next) tx r tx') :
    next.isZero = false ∧ ∃ cfg : AppConfig, appConfigIn tx.lookup = some cfg ∧
      Returns (Bank.setMintAuthority cfg.custodialSigner (Text.trim asset) next) tx () tx' := by
  unfold releaseAssetCustody at h
  obtain ⟨-, h1⟩ := Returns.guard h
  obtain ⟨hnext, h2⟩ := Returns.guard h1
  obtain ⟨cfg, t1, hl, h3⟩ := Returns.bind h2
  obtain ⟨rfl, hcfg⟩ := requireAppConfig_returns hl
  obtain ⟨t2, hx, h4⟩ := Returns.seq h3
  obtain ⟨-, rfl⟩ := Returns.pure h4
  exact ⟨by simpa using hnext, cfg, hcfg, bankStep_returns.mp hx⟩

/-- Every operation keeps the settings' custodial signer; only creating the
settings writes one, and it runs only where there are none. -/
theorem Op.signerIs {o : Op} {r : o.Result × List Event} {signer : Address} (hfits : (Label.op ctx o r).PeriodFits)
    (hs : SignerIs signer tx.lookup) (h : Returns (o.txn e ctx) tx r tx') : SignerIs signer tx'.lookup := by
  cases o with
  | createAppConfig signer' =>
    obtain ⟨hnone, -⟩ := createAppConfig_returns h
    obtain ⟨cfg, hcfg, -⟩ := hs
    rw [hnone] at hcfg
    cases hcfg
  | setAppConfig hours =>
    -- the new period fits its 32 bits, so the settings read back as written
    have hfit : hours < 2 ^ 32 := hfits
    obtain ⟨c, hc, rfl⟩ := setAppConfig_rewrites h
    obtain ⟨cfg, hcfg, rfl⟩ := hs
    rw [hc, Option.some.injEq] at hcfg
    subst hcfg
    refine ⟨{ c with rollingPeriodHours := hours }, ?_, rfl⟩
    rw [appConfigIn, recordAt_restaged_encode (fits_appConfigValue hfit), appConfigOf_appConfigValue]
  | createAsset id decimals authority =>
    obtain ⟨_, -, h1⟩ := Engine.createAsset_returns h
    exact hs.of_bank (Bank.createAsset_stages h1) fun _ hk => hk
  | createFeed id description decimals =>
    obtain ⟨b, rfl⟩ := createFeed_returns h
    exact hs.restaged (by simp) _
  | submitRound id answer =>
    obtain ⟨i, b, rfl⟩ := submitRound_returns h
    exact hs.restaged (by simp) _
  | openAccount owner id asset =>
    exact hs.of_bank (Bank.openAccount_stages (Engine.openAccount_returns h)) fun _ hk => hk
  | createMintChannel path capacity =>
    obtain ⟨_, _, -, -, -, h1, -⟩ := createMintChannel_returns h
    exact hs.putMintChannel h1
  | setMintChannel id s =>
    obtain ⟨_, _, _, -, -, -, -, -, h1⟩ := setMintChannel_returns h
    exact hs.putMintChannel h1
  | createBurnChannel path =>
    obtain ⟨_, _, -, -, -, h1, -⟩ := createBurnChannel_returns h
    exact hs.putBurnChannel h1
  | setBurnChannel id s =>
    obtain ⟨_, _, -, -, -, -, h1⟩ := setBurnChannel_returns h
    exact hs.putBurnChannel h1
  | mint req =>
    obtain ⟨_, _, _, _, _, _, _, _, t1, t2, -, -, -, -, -, -, -, -, -, h1, -, h2, h3, -⟩ := mint_returns h
    exact ((hs.of_bank (transferLegs_stages h1) fun _ => accounts_isKey).of_bank (Bank.mintTo_stages h2)
      fun _ hk => hk).putMintChannel h3
  | burn req =>
    obtain ⟨_, _, _, _, _, _, _, _, _, t1, t2, t3, -, -, -, -, -, -, -, -, h1, h2, -, h3, h4, -⟩ := burn_returns h
    exact (((hs.of_bank (Bank.transfer_stages h1) fun _ => accounts_isKey).of_bank (Bank.burn_stages h2)
      fun _ hk => hk).of_bank (Bank.transfer_stages h3) fun _ => accounts_isKey).putBurnChannel h4
  | withdrawFee source destination amount =>
    obtain ⟨_, _, h1⟩ := withdrawFee_returns h
    exact hs.of_bank (Bank.transfer_stages h1) fun _ => accounts_isKey
  | releaseAssetCustody asset next =>
    obtain ⟨_, h1⟩ := releaseAssetCustody_returns h
    exact hs.of_bank (Bank.setMintAuthority_stages h1) fun _ hk => hk

theorem Op.assetsHeld {o : Op} {r : o.Result × List Event} {cfg : AppConfig} (hs : Bank.Sound tx.lookup)
    (hcfg : appConfigIn tx.lookup = some cfg) (h : Returns (o.txn e ctx) tx r tx') :
    AssetsHeld cfg.custodialSigner tx.lookup tx'.lookup := by
  cases o with
  | createAppConfig signer =>
    obtain ⟨-, rfl⟩ := createAppConfig_returns h
    exact .restaged_outside not_isKey_appConfigKey _
  | setAppConfig hours =>
    obtain ⟨c, -, rfl⟩ := setAppConfig_returns h
    exact .restaged_outside not_isKey_appConfigKey _
  | createAsset id decimals authority =>
    obtain ⟨_, -, h1⟩ := Engine.createAsset_returns h
    exact .createAsset h1
  | createFeed id description decimals =>
    obtain ⟨b, rfl⟩ := createFeed_returns h
    exact .restaged_outside (not_isKey_feedKey _) _
  | submitRound id answer =>
    obtain ⟨i, b, rfl⟩ := submitRound_returns h
    exact .restaged_outside (not_isKey_feedKey _) _
  | openAccount owner id asset => exact .openAccount (Engine.openAccount_returns h)
  | createMintChannel path capacity =>
    obtain ⟨_, _, -, -, -, h1, -⟩ := createMintChannel_returns h
    exact .of_outside_bank (putMintChannel_stages h1) (by rintro k (rfl | rfl) <;> simp)
  | setMintChannel id s =>
    obtain ⟨_, _, _, -, -, -, -, -, h1⟩ := setMintChannel_returns h
    exact .of_outside_bank (putMintChannel_stages h1) (by rintro k (rfl | rfl) <;> simp)
  | createBurnChannel path =>
    obtain ⟨_, _, -, -, -, h1, -⟩ := createBurnChannel_returns h
    exact .of_outside_bank (putBurnChannel_stages h1) (by rintro k (rfl | rfl) <;> simp)
  | setBurnChannel id s =>
    obtain ⟨_, _, -, -, -, -, h1⟩ := setBurnChannel_returns h
    exact .of_outside_bank (putBurnChannel_stages h1) (by rintro k (rfl | rfl) <;> simp)
  | mint req =>
    obtain ⟨cfg', _, _, _, _, _, _, _, t1, t2, hcfg', -, -, -, -, -, -, -, -, h1, -, h2, h3, -⟩ := mint_returns h
    rw [hcfg, Option.some.injEq] at hcfg'
    subst hcfg'
    -- the legs move accounts, the issue is the signer's, the channel is no asset
    exact (AssetsHeld.of_accounts (transferLegs_stages h1)).trans ((AssetsHeld.mintTo (hs.transferLegs h1) h2).trans
      (.of_outside_bank (putMintChannel_stages h3) (by rintro k (rfl | rfl) <;> simp)))
  | burn req =>
    obtain ⟨_, _, _, _, _, _, _, _, _, t1, t2, t3, -, -, -, -, -, -, -, -, h1, h2, -, h3, h4, -⟩ := burn_returns h
    exact (AssetsHeld.transfer h1).trans ((AssetsHeld.burn (hs.transfer h1) h2).trans
      ((AssetsHeld.transfer h3).trans (.of_outside_bank (putBurnChannel_stages h4) (by rintro k (rfl | rfl) <;> simp))))
  | withdrawFee source destination amount =>
    obtain ⟨_, _, h1⟩ := withdrawFee_returns h
    exact .transfer h1
  | releaseAssetCustody asset next =>
    obtain ⟨-, cfg', hcfg', h1⟩ := releaseAssetCustody_hands_on h
    rw [hcfg, Option.some.injEq] at hcfg'
    subst hcfg'
    exact .setMintAuthority hs h1

/-! ## A mint up to its issue -/

/-- What a mint has worked out when it comes to issue the stable unit. -/
structure MintPlan where
  custodian : Address
  channel : MintChannel
  fee : Nat
  payout : Nat
  legs : List LegTransfer
  reset : Bool

/-- A mint up to the issue: every check, the pricing and the transfer of the
legs, and the channel's new counters. -/
def mintPlan (e : Engine) (ctx : Context) (req : MintRequest) : Txn MintPlan := do
  let cfg ← requireAppConfig
  let c ← activeMintChannel req.channel
  Txn.lift (checkAmount req.amount c.minRequestAmount)
  if c.basket.isEmpty then
    Txn.fail (Fault.raise .unavailable ("mint channel " ++ req.channel.toText ++ " has no basket"))
  let routes ← Txn.lift (Channel.matchRoutes c.basket req.legs)
  let w := Channel.snapshot c.counters cfg.rollingPeriodHours ctx.now
  Txn.lift (w.checkCaps c.counters req.amount)
  let custodian := cfg.custodialSigner
  let legs ← routeLegs e (e.oracle ctx) req.amount req.requester custodian (c.basket.zip routes)
  let _ ← requireAccount "recipient" req.recipient e.stableAsset none
  let (fee, payout) ← Txn.lift (splitFee req.amount c.feeBps)
  let accumulated ← Txn.lift (Amount.checkedAdd c.counters.accumulatedFee fee)
  transferLegs req.requester legs
  let (counters, reset) ← Txn.lift (w.apply c.counters req.amount)
  pure ⟨custodian, { c with counters := { counters with accumulatedFee := accumulated } }, fee, payout, legs, reset⟩

/-- The issue of the stable unit to the recipient, under the custodian. -/
def issueStable (custodian : Address) (recipient : String) (payout : Nat) : Txn Unit :=
  bankStep (fun err => Fault.within "issue stable" (accountFault err)) (Bank.mintTo custodian recipient payout)

/-- The rest of a mint once its plan is made: the issue, the channel, the
receipt. -/
def mintRest (ctx : Context) (req : MintRequest) (p : MintPlan) : Txn (MintReceipt × List Event) := do
  issueStable p.custodian req.recipient p.payout
  Channel.putMintChannel p.channel
  pure (⟨ctx.fresh, req.channel, req.requester, req.recipient, req.amount, p.fee, p.payout, p.legs, p.reset, ctx.now⟩,
    [.minted ctx.fresh req.channel.toText req.requester req.recipient req.amount p.fee p.payout
      (p.legs.map (·.asset)) (p.legs.map (·.amount))])

theorem mint_eq_plan (e : Engine) (ctx : Context) (req : MintRequest) :
    mint e ctx req = mintPlan e ctx req >>= mintRest ctx req := by
  unfold mint mintPlan
  simp only [bind_assoc, pure_bind, apply_ite (· >>= mintRest ctx req)]
  rfl

theorem mintPlan_returns {req : MintRequest} {p : MintPlan} (h : Returns (mintPlan e ctx req) tx p tx') :
    ∃ (cfg : AppConfig) (rcp : Account), appConfigIn tx.lookup = some cfg ∧ p.custodian = cfg.custodialSigner ∧
      accountIn tx.lookup (Text.trim req.recipient) = some rcp ∧ rcp.asset = e.stableAsset ∧
      Returns (transferLegs req.requester p.legs) tx () tx' := by
  unfold mintPlan at h
  obtain ⟨cfg, t1, hl, h1⟩ := Returns.bind h
  obtain ⟨rfl, hcfg⟩ := requireAppConfig_returns hl
  obtain ⟨c, t2, hl, h2⟩ := Returns.bind h1
  obtain ⟨rfl, -, -⟩ := activeMintChannel_returns hl
  obtain ⟨t3, hl, h3⟩ := Returns.seq h2
  obtain ⟨-, rfl⟩ := Returns.lift hl
  obtain ⟨-, h4⟩ := Returns.guard h3
  obtain ⟨routes, t4, hl, h5⟩ := Returns.bind h4
  obtain ⟨-, rfl⟩ := Returns.lift hl
  obtain ⟨t5, hl, h6⟩ := Returns.seq h5
  obtain ⟨-, rfl⟩ := Returns.lift hl
  obtain ⟨legs, t6, hl, h7⟩ := Returns.bind h6
  obtain rfl := routeLegs_returns hl
  obtain ⟨rcp, t7, hl, h8⟩ := Returns.bind h7
  obtain ⟨rfl, hrcp, hasset, -⟩ := requireAccount_returns hl
  obtain ⟨⟨fee, payout⟩, t8, hl, h9⟩ := Returns.bind h8
  obtain ⟨-, rfl⟩ := Returns.lift hl
  obtain ⟨acc, t9, hl, h10⟩ := Returns.bind h9
  obtain ⟨-, rfl⟩ := Returns.lift hl
  obtain ⟨t10, hxfer, h11⟩ := Returns.seq h10
  obtain ⟨⟨counters, reset⟩, t11, hl, h12⟩ := Returns.bind h11
  obtain ⟨-, rfl⟩ := Returns.lift hl
  obtain ⟨rfl, rfl⟩ := Returns.pure h12
  exact ⟨cfg, rcp, hcfg, rfl, hrcp, hasset, hxfer⟩

/-- On a database answering every call, a planned mint fails at the issue
as an invalid account when the custodian is not the mint authority. -/
theorem mint_refused_at_issue {req : MintRequest} {S : Store} {p : MintPlan} (hs : Bank.Sound S.get?)
    (hp : Returns (mintPlan e ctx req) { db := { store := S } } p tx')
    (hauth : ∀ x, assetIn S.get? e.stableAsset = some x → x.mintAuthority ≠ p.custodian) :
    ∃ f, mint e ctx req { db := { store := S } } = .error f ∧ f.code = .invalidAccount := by
  have hl : ({ db := { store := S } } : Tx).lookup = S.get? := Tx.lookup_start _
  obtain ⟨cfg, rcp, -, -, hrcp, hasset, hxfer⟩ := mintPlan_returns hp
  rw [hl] at hrcp
  have hst := transferLegs_stages hxfer
  have hraw : ∀ k, tx'.raw k = .ok (tx'.lookup k) := Tx.raw_of_db hst.frame.1
  -- the recipient still holds the stable asset, which the legs left alone
  obtain ⟨d, hd, hda⟩ : ∃ d, accountIn tx'.lookup (Text.trim req.recipient) = some d ∧ d.asset = e.stableAsset := by
    have hmap := accountAsset_transferLegs (hl ▸ hs) hxfer (Text.trim req.recipient)
    rw [hl, hrcp, Option.map_some] at hmap
    obtain ⟨d, hd, hda⟩ := Option.map_eq_some_iff.mp hmap
    exact ⟨d, hd, hda.trans hasset⟩
  obtain ⟨a, ha, -, htrim⟩ := hs.asset_of_account hrcp
  rw [hasset] at ha htrim
  have ha' : assetIn tx'.lookup (Text.trim d.asset) = some a := by
    rw [hda, htrim, assetIn, recordAt_of_stages hst (by rintro ⟨j, hj⟩; simp at hj), hl]
    exact ha
  obtain ⟨err, herr, hcode⟩ : ∃ err, Bank.mintTo p.custodian req.recipient p.payout tx' = .error err ∧
      (accountFault err).code = .invalidAccount := Bank.mintTo_refused hraw hd ha' (hauth a ha)
  refine ⟨Fault.within "issue stable" (accountFault err), ?_, hcode⟩
  rw [mint_eq_plan]
  simp only [bind, StateT.bind, show mintPlan e ctx req { db := { store := S } } = .ok (p, tx') from hp,
    Except.bind, mintRest, issueStable, bankStep, Txn.mapFault, herr]

/-- Where the stable asset's mint authority is not the custodial signer, no
mint returns: its issue needs that authority. -/
theorem mint_not_returns {req : MintRequest} {cfg : AppConfig} {r : MintReceipt × List Event}
    (hs : Bank.Sound tx.lookup) (hcfg : appConfigIn tx.lookup = some cfg)
    (hauth : ∀ x, assetIn tx.lookup e.stableAsset = some x → x.mintAuthority ≠ cfg.custodialSigner) :
    ¬ Returns (mint e ctx req) tx r tx' := by
  intro h
  obtain ⟨cfg', _, rcp, _, _, _, _, _, t1, t2, hcfg', -, -, -, -, hrcp, hasset, -, -, hxfer, -, hmint, -, -⟩ :=
    mint_returns h
  rw [hcfg, Option.some.injEq] at hcfg'
  subst hcfg'
  obtain ⟨d, a, hd, ha, hauth', -, -, -⟩ := mintTo_returns hmint
  -- the legs moved accounts only: the recipient still holds the stable asset, which is as it was
  have hmap := accountAsset_transferLegs hs hxfer (Text.trim req.recipient)
  rw [hd, hrcp, Option.map_some, Option.map_some, Option.some.injEq, hasset] at hmap
  obtain ⟨a₀, ha₀, -, htrim⟩ := hs.asset_of_account hrcp
  rw [hasset] at ha₀ htrim
  rw [hmap, htrim, assetIn, recordAt_of_stages (transferLegs_stages hxfer) (by rintro ⟨j, hj⟩; simp at hj)] at ha
  exact hauth a ha hauth'

/-! ## Along a run of the engine's operations -/

/-- A step of the engine's own operations, with a rolling period that fits
32 bits: no direct call of the bank. -/
def Label.ByEngine : Label → Prop
  | ℓ@(.op ..) => ℓ.PeriodFits
  | .call .. => False

/-- The settings name `signer` and asset `i` has the mint authority `n`. -/
def Released (signer : Address) (i : String) (n : Address) (L : Bytes → Option Bytes) : Prop :=
  SignerIs signer L ∧ ∃ x, assetIn L i = some x ∧ x.mintAuthority = n

section
variable {S S' : Store} {ℓ : Label} {ℓs : List Label} {signer n : Address} {i : String}

theorem Label.Step.signerIs (hstep : ℓ.Step e S S') (hℓ : ℓ.ByEngine) (hs : SignerIs signer S.get?) :
    SignerIs signer S'.get? := by
  cases ℓ with
  | op ctx o r =>
    obtain ⟨-, -, tx, tx', hl, hret, hl'⟩ := hstep.op_returns
    rw [hl']
    exact Op.signerIs hℓ (hl ▸ hs) hret
  | call c r => exact hℓ.elim

theorem Run.signerIs (h : Run e (fun _ ℓ _ => ℓ.ByEngine) S ℓs S') (hs : SignerIs signer S.get?) :
    SignerIs signer S'.get? := by
  induction h with
  | nil => exact hs
  | cons hstep hok _ ih => exact ih (hstep.signerIs hok hs)

theorem Label.Step.released (hS : Reachable e S) (hstep : ℓ.Step e S S') (hℓ : ℓ.ByEngine) (hn : n ≠ signer)
    (h : Released signer i n S.get?) : Released signer i n S'.get? ∧ supplyIn S'.get? i ≤ supplyIn S.get? i := by
  cases ℓ with
  | call c r => exact hℓ.elim
  | op ctx o r =>
    obtain ⟨-, -, tx, tx', hl, hret, hl'⟩ := hstep.op_returns
    obtain ⟨⟨cfg, hcfg, rfl⟩, x, hx, rfl⟩ := h
    have hs : Bank.Sound tx.lookup := hl ▸ Bank.Sound.of_reachable hS
    rw [← hl] at hcfg hx ⊢
    rw [hl']
    obtain ⟨x', hx', hmove⟩ := Op.assetsHeld hs hcfg hret i x hx
    -- the authority is not the signer's, so it stayed and the supply did not rise
    obtain ⟨hauth, hsup⟩ := hmove.resolve_left hn
    refine ⟨⟨Op.signerIs hℓ ⟨cfg, hcfg, rfl⟩ hret, x', hx', hauth⟩, ?_⟩
    simpa only [supplyIn, hx', hx, Option.map_some, Option.getD_some] using hsup

/-- Along a run of the engine's operations an authority that is not the
signer's stays, and the supply of its asset does not rise. -/
theorem Run.released (h : Run e (fun _ ℓ _ => ℓ.ByEngine) S ℓs S') (hS : Reachable e S) (hn : n ≠ signer)
    (hI : Released signer i n S.get?) : Released signer i n S'.get? ∧ supplyIn S'.get? i ≤ supplyIn S.get? i := by
  induction h with
  | nil => exact ⟨hI, le_rfl⟩
  | cons hstep hok _ ih =>
    obtain ⟨h₁, hle₁⟩ := hstep.released hS hok hn hI
    obtain ⟨h₂, hle₂⟩ := ih (hstep.reachable hS) h₁
    exact ⟨h₂, hle₂.trans hle₁⟩

theorem Label.Step.release {ctx : Context} {a : String} {r : Unit × List Event} (hS : Reachable e S)
    (hstep : (Label.op ctx (.releaseAssetCustody a n) r).Step e S S') (hs : SignerIs signer S.get?) :
    Released signer (Text.trim a) n S'.get? := by
  obtain ⟨-, -, tx, tx', hl, hret, hl'⟩ := hstep.op_returns
  have hsound : Bank.Sound tx.lookup := hl ▸ Bank.Sound.of_reachable hS
  have hsigner := Op.signerIs (show (Label.op ctx (.releaseAssetCustody a n) r).PeriodFits from trivial) (hl ▸ hs) hret
  obtain ⟨-, cfg, -, h1⟩ := releaseAssetCustody_hands_on hret
  obtain ⟨x, hx, -, rfl⟩ := setMintAuthority_returns h1
  obtain ⟨hid, -, hst⟩ := hsound.asset _ x hx
  rw [Text.trim_trim] at hid
  have hst' : ({ x with mintAuthority := n } : Asset).Storable := ⟨hst.id, hst.decimals, hst.supply⟩
  rw [hl']
  refine ⟨hsigner, { x with mintAuthority := n }, ?_, rfl⟩
  rw [assetIn_restaged_asset hst', if_pos hid.symm]

end

/-- Runs keep the signer and a released asset's authority; a released
stable asset is never minted again. -/
theorem custody_release_is_final {e : Engine} {S₀ : Store} {signer : Address} (hS₀ : Reachable e S₀)
    (hsigner : SignerIs signer S₀.get?) :
    (∀ ℓs S, Run e (fun _ ℓ _ => ℓ.ByEngine) S₀ ℓs S → SignerIs signer S.get?) ∧
    ∀ (ctx : Context) (a : String) (n : Address) (r : Unit × List Event) (S₁ : Store) (ℓs : List Label) (S : Store),
      n ≠ signer → (Label.op ctx (.releaseAssetCustody a n) r).Step e S₀ S₁ →
      Run e (fun _ ℓ _ => ℓ.ByEngine) S₁ ℓs S →
      (∃ x, assetIn S.get? (Text.trim a) = some x ∧ x.mintAuthority = n) ∧
      (Text.trim a = e.stableAsset →
        (∀ ctx' req (db db' : Database) r', db.store = S → atomic db (mint e ctx' req) ≠ .ok (r', db')) ∧
        (∀ ctx' req p tx', Returns (mintPlan e ctx' req) { db := { store := S } } p tx' →
          ∃ f, mint e ctx' req { db := { store := S } } = .error f ∧ f.code = .invalidAccount) ∧
        supplyIn S.get? e.stableAsset ≤ supplyIn S₁.get? e.stableAsset ∧
        ∀ (ℓ : Label) (S' : Store), ℓ.ByEngine → ℓ.Step e S S' →
          supplyIn S'.get? e.stableAsset ≤ supplyIn S.get? e.stableAsset) := by
  refine ⟨fun ℓs S hrun => hrun.signerIs hsigner, ?_⟩
  intro ctx a n r S₁ ℓs S hn hrel hrun
  have hS₁ := hrel.reachable hS₀
  have hS := hrun.reachable hS₁
  obtain ⟨⟨⟨cfg, hcfg, hcs⟩, x, hx, hauth⟩, hsup⟩ := hrun.released hS₁ hn (hrel.release hS₀ hsigner)
  refine ⟨⟨x, hx, hauth⟩, fun hstable => ?_⟩
  rw [hstable] at hx hsup
  have hs : Bank.Sound S.get? := Bank.Sound.of_reachable hS
  -- the stable asset's authority is `n`, not the signer the settings name
  have hother : ∀ y, assetIn S.get? e.stableAsset = some y → y.mintAuthority ≠ cfg.custodialSigner := by
    intro y hy
    rw [hx, Option.some.injEq] at hy
    subst hy
    rw [hauth, hcs]
    exact hn
  refine ⟨?_, ?_, hsup, ?_⟩
  · intro ctx' req db db' r' hdb hat
    obtain ⟨tx', hm, -⟩ := atomic_eq_ok hat
    have hl : ({ db := db } : Tx).lookup = S.get? := hdb ▸ Tx.lookup_start db
    exact mint_not_returns (hl ▸ hs) (hl ▸ hcfg) (hl ▸ hother) hm
  · intro ctx' req p tx' hp
    obtain ⟨cfg', -, hcfg', hcust, -⟩ := mintPlan_returns hp
    rw [Tx.lookup_start, hcfg, Option.some.injEq] at hcfg'
    subst hcfg'
    exact mint_refused_at_issue hs hp (hcust ▸ hother)
  · intro ℓ S' hℓ hstep
    exact (hstep.released hS hℓ hn ⟨⟨cfg, hcfg, hcs⟩, x, hx, hauth⟩).2

/-- An engine whose settings were just created over the empty store, naming
a custodial signer. -/
theorem custody_release_is_final_after_settings :
    ∃ S₀ : Store, Reachable ⟨⟨[]⟩, "USDX", 6, 0⟩ S₀ ∧ SignerIs ⟨List.replicate 19 0 ++ [2], rfl⟩ S₀.get? ∧
      (∀ ℓs S, Run ⟨⟨[]⟩, "USDX", 6, 0⟩ (fun _ ℓ _ => ℓ.ByEngine) S₀ ℓs S →
        SignerIs ⟨List.replicate 19 0 ++ [2], rfl⟩ S.get?) ∧
      ∀ (ctx : Context) (a : String) (n : Address) (r : Unit × List Event) (S₁ : Store) (ℓs : List Label) (S : Store),
        n ≠ ⟨List.replicate 19 0 ++ [2], rfl⟩ → (Label.op ctx (.releaseAssetCustody a n) r).Step ⟨⟨[]⟩, "USDX", 6, 0⟩ S₀ S₁ →
        Run ⟨⟨[]⟩, "USDX", 6, 0⟩ (fun _ ℓ _ => ℓ.ByEngine) S₁ ℓs S →
        (∃ x, assetIn S.get? (Text.trim a) = some x ∧ x.mintAuthority = n) ∧
        (Text.trim a = "USDX" →
          (∀ ctx' req (db db' : Database) r', db.store = S →
            atomic db (mint ⟨⟨[]⟩, "USDX", 6, 0⟩ ctx' req) ≠ .ok (r', db')) ∧
          (∀ ctx' req p tx', Returns (mintPlan ⟨⟨[]⟩, "USDX", 6, 0⟩ ctx' req) { db := { store := S } } p tx' →
            ∃ f, mint ⟨⟨[]⟩, "USDX", 6, 0⟩ ctx' req { db := { store := S } } = .error f ∧ f.code = .invalidAccount) ∧
          supplyIn S.get? "USDX" ≤ supplyIn S₁.get? "USDX" ∧
          ∀ (ℓ : Label) (S' : Store), ℓ.ByEngine → ℓ.Step ⟨⟨[]⟩, "USDX", 6, 0⟩ S S' →
            supplyIn S'.get? "USDX" ≤ supplyIn S.get? "USDX") := by
  have hok : (atomic ({} : Database)
      ((Op.createAppConfig ⟨List.replicate 19 0 ++ [2], rfl⟩).txn ⟨⟨[]⟩, "USDX", 6, 0⟩ ⟨0, "", true⟩)).isOk = true := by
    decide +kernel
  cases hat : atomic ({} : Database)
      ((Op.createAppConfig ⟨List.replicate 19 0 ++ [2], rfl⟩).txn ⟨⟨[]⟩, "USDX", 6, 0⟩ ⟨0, "", true⟩) with
  | error f =>
    rw [hat] at hok
    cases hok
  | ok p =>
    obtain ⟨r, db'⟩ := p
    have hctx : Context.Typed ⟨0, "", true⟩ := ⟨by decide, by simp [Text.Short, Bytes.ofString_eq]⟩
    have hS₀ : Reachable ⟨⟨[]⟩, "USDX", 6, 0⟩ db'.store := .single (.inl ⟨{}, db', _, _, r, rfl, rfl, hctx, trivial, hat⟩)
    obtain ⟨tx', hm, hc⟩ := atomic_eq_ok hat
    have hlook := atomic_lookup (Op.stages hm) hc
    have hm' : Returns (Engine.createAppConfig ⟨List.replicate 19 0 ++ [2], rfl⟩) { db := {} } r tx' := hm
    obtain ⟨-, rfl⟩ := createAppConfig_returns hm'
    have hsigner : SignerIs ⟨List.replicate 19 0 ++ [2], rfl⟩ db'.store.get? := by
      refine ⟨⟨defaultRollingHours, _⟩, ?_, rfl⟩
      rw [hlook, appConfigIn, recordAt_restaged_encode (fits_appConfigValue (by decide)), appConfigOf_appConfigValue]
    exact ⟨db'.store, hS₀, hsigner, custody_release_is_final hS₀ hsigner⟩

end Engine

end Issuance
