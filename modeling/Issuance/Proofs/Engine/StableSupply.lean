import Mathlib
import Issuance.Proofs.Engine.BankSound
import Issuance.Proofs.Engine.ChannelSound
/-! # The stable unit is issued and retired only through channels

Over a run the stable supply moves by what the mint channels issued net of
kept fees, less what the burn channels retired; every other write moves
balances only or misses both. -/
namespace Issuance

open Store Txn Bank Channel Engine

/-- The supply of an asset in a view, none counting as zero. -/
def supplyIn (L : Bytes → Option Bytes) (i : String) : ℕ := ((assetIn L i).map Asset.supply).getD 0

/-- What a mint channel issued net of the fee it kept. -/
def MintChannel.net (c : MintChannel) : ℤ := (c.counters.lifetimeIssued : ℤ) - c.counters.accumulatedFee

/-- What the mint channel under an identifier issued net of its fee. -/
def netIn (L : Bytes → Option Bytes) (id : ChannelId) : ℤ := ((mintChannelIn L id).map MintChannel.net).getD 0

/-- What the burn channel under an identifier retired. -/
def burnedIn (L : Bytes → Option Bytes) (id : ChannelId) : ℤ :=
  ((burnChannelIn L id).map fun c => (c.counters.lifetimeIssued : ℤ)).getD 0

/-- What all mint channels issued net of their fees. -/
noncomputable def mintedNet (L : Bytes → Option Bytes) : ℤ := ∑ᶠ id, netIn L id

/-- What all burn channels retired. -/
noncomputable def burnedTotal (L : Bytes → Option Bytes) : ℤ := ∑ᶠ id, burnedIn L id

/-- From `L` to `L'` the stable supply moved by what the mint channels issued
net of their fees less what the burn channels retired, and no other supply
moved. -/
def Conserves (e : Engine) (L L' : Bytes → Option Bytes) : Prop :=
  (supplyIn L' e.stableAsset : ℤ) - supplyIn L e.stableAsset =
      (mintedNet L' - mintedNet L) - (burnedTotal L' - burnedTotal L) ∧
    ∀ i, i ≠ e.stableAsset → supplyIn L' i = supplyIn L i

theorem Conserves.refl (e : Engine) (L : Bytes → Option Bytes) : Conserves e L L :=
  ⟨by ring, fun _ _ => rfl⟩

theorem Conserves.trans {e : Engine} {L L' L'' : Bytes → Option Bytes} (h : Conserves e L L')
    (h' : Conserves e L' L'') : Conserves e L L'' :=
  ⟨by linarith [h.1, h'.1], fun i hi => (h'.2 i hi).trans (h.2 i hi)⟩

theorem finite_netIn (tx : Tx) : (netIn tx.lookup).HasFiniteSupport := by
  refine ((Tx.finite_lookup tx).preimage (fun i _ j _ h => (recordKey_inj .mint i j).mp h)).subset ?_
  intro id hid
  simp only [Function.mem_support, Set.mem_preimage, Set.mem_ofPred_eq] at hid ⊢
  intro hn
  exact hid (by simp [netIn, mintChannelIn, recordAt, hn])

theorem finite_burnedIn (tx : Tx) : (burnedIn tx.lookup).HasFiniteSupport := by
  refine ((Tx.finite_lookup tx).preimage (fun i _ j _ h => (recordKey_inj .burn i j).mp h)).subset ?_
  intro id hid
  simp only [Function.mem_support, Set.mem_preimage, Set.mem_ofPred_eq] at hid ⊢
  intro hn
  exact hid (by simp [burnedIn, burnChannelIn, recordAt, hn])

/-! ## Writes that move nothing counted -/

section
variable {tx tx' : Tx} {P : Bytes → Prop}

/-- Nothing counted moved from `tx` to `tx'`: every supply, and what each
channel issued, kept and retired. -/
structure Still (tx tx' : Tx) : Prop where
  supply : ∀ i, supplyIn tx'.lookup i = supplyIn tx.lookup i
  net : netIn tx'.lookup = netIn tx.lookup
  burned : burnedIn tx'.lookup = burnedIn tx.lookup

theorem Still.trans {tx'' : Tx} (h : Still tx tx') (h' : Still tx' tx'') : Still tx tx'' :=
  ⟨fun i => (h'.supply i).trans (h.supply i), h'.net.trans h.net, h'.burned.trans h.burned⟩

theorem Still.conserves (e : Engine) (h : Still tx tx') : Conserves e tx.lookup tx'.lookup :=
  ⟨by simp [h.supply, mintedNet, burnedTotal, h.net, h.burned], fun i _ => h.supply i⟩

theorem supplyIn_of_stages (h : tx.Stages P tx') (ha : ∀ k, P k → ∀ i, k ≠ assetKey i) (i : String) :
    supplyIn tx'.lookup i = supplyIn tx.lookup i := by
  rw [supplyIn, supplyIn, assetIn, assetIn, recordAt_of_stages h fun hk => ha _ hk i rfl]

theorem netIn_of_stages (h : tx.Stages P tx') (hc : ∀ k, P k → ∀ id, k ≠ recordKey .mint id) :
    netIn tx'.lookup = netIn tx.lookup :=
  funext fun id => by rw [netIn, netIn, mintChannelIn, mintChannelIn, recordAt_of_stages h fun hk => hc _ hk id rfl]

theorem burnedIn_of_stages (h : tx.Stages P tx') (hc : ∀ k, P k → ∀ id, k ≠ recordKey .burn id) :
    burnedIn tx'.lookup = burnedIn tx.lookup :=
  funext fun id => by rw [burnedIn, burnedIn, burnChannelIn, burnChannelIn, recordAt_of_stages h fun hk => hc _ hk id rfl]

theorem counts_of_bank (h : tx.Stages Bank.IsKey tx') :
    netIn tx'.lookup = netIn tx.lookup ∧ burnedIn tx'.lookup = burnedIn tx.lookup := by
  have hne : ∀ k, Bank.IsKey k → ∀ kind id, k ≠ recordKey kind id := by
    rintro k (⟨i, rfl⟩ | ⟨j, rfl⟩) kind id <;> simp
  exact ⟨netIn_of_stages h fun k hk => hne k hk .mint, burnedIn_of_stages h fun k hk => hne k hk .burn⟩

theorem Still.of_stages (h : tx.Stages P tx') (ha : ∀ k, P k → ∀ i, k ≠ assetKey i)
    (hc : ∀ k, P k → ∀ kind id, k ≠ recordKey kind id) : Still tx tx' :=
  ⟨supplyIn_of_stages h ha, netIn_of_stages h fun k hk => hc k hk .mint,
    burnedIn_of_stages h fun k hk => hc k hk .burn⟩

theorem Still.accounts (h : tx.Stages (fun k => ∃ j, k = accountKey j) tx') : Still tx tx' :=
  .of_stages h (by rintro k ⟨j, rfl⟩ i; simp) (by rintro k ⟨j, rfl⟩ kind id; simp)

theorem Still.restaged {k : Bytes} (ha : ∀ i, k ≠ assetKey i) (hc : ∀ kind id, k ≠ recordKey kind id)
    (v : Option Bytes) : Still tx (tx.restaged k v) :=
  .of_stages (.restaged rfl v) (fun _ h => h ▸ ha) (fun _ h => h ▸ hc)

end

/-! ## The bank's moves of supply -/

section
variable {tx tx' : Tx}

theorem Still.restaged_asset {a : Asset} (hst : a.Storable) (hsup : supplyIn tx.lookup a.id = a.supply) :
    Still tx (tx.restaged (assetKey a.id) (some (Rlp.encode (assetValue a)))) := by
  have hstages : tx.Stages Bank.IsKey (tx.restaged (assetKey a.id) (some (Rlp.encode (assetValue a)))) :=
    .restaged (Bank.isKey_asset a.id) _
  refine ⟨fun i => ?_, (counts_of_bank hstages).1, (counts_of_bank hstages).2⟩
  rw [supplyIn, assetIn_restaged_asset hst]
  split
  · rename_i hi
    rw [hi, hsup]
    rfl
  · rfl

theorem Still.createAsset {id : String} {decimals : Nat} {authority : Address} {a : Asset}
    (hid : Text.Short id) (hdec : decimals < 2 ^ 16) (h : Returns (Bank.createAsset id decimals authority) tx a tx') :
    Still tx tx' := by
  obtain ⟨-, hnone, rfl, rfl⟩ := Bank.createAsset_returns h
  have hfree : assetIn tx.lookup (Text.trim id) = none := by
    simp only [assetIn, recordAt]
    exact congrArg (Option.bind · _) hnone
  exact Still.restaged_asset ⟨hid.trim, hdec, by simp [Amount.bound_eq]⟩ (by simp [supplyIn, hfree])

theorem Still.setMintAuthority {current next : Address} {assetId : String} {u : Unit} (hs : Bank.Sound tx.lookup)
    (h : Returns (Bank.setMintAuthority current assetId next) tx u tx') : Still tx tx' := by
  obtain ⟨a, ha, -, rfl⟩ := setMintAuthority_returns h
  obtain ⟨hid, -, hst⟩ := hs.asset _ a ha
  rw [← hid] at ha
  refine Still.restaged_asset (a := { a with mintAuthority := next }) ⟨hst.id, hst.decimals, hst.supply⟩ ?_
  simp [supplyIn, ha]

theorem Still.transfer {auth : Address} {source target : String} {amount : Nat} {u : Unit}
    (h : Returns (Bank.transfer auth source target amount) tx u tx') : Still tx tx' :=
  .accounts (transfer_stages h)

theorem supplyIn_mintTo {auth : Address} {target : String} {amount : Nat} {u : Unit} (hs : Bank.Sound tx.lookup)
    (h : Returns (Bank.mintTo auth target amount) tx u tx') :
    ∃ d, accountIn tx.lookup (Text.trim target) = some d ∧
      ∀ i, supplyIn tx'.lookup i = supplyIn tx.lookup i + if i = d.asset then amount else 0 := by
  obtain ⟨d, a, hdst, ha, -, hsup, -, rfl⟩ := mintTo_returns h
  obtain ⟨a', ha', hid, htrim⟩ := hs.asset_of_account hdst
  rw [htrim, ha'] at ha
  cases ha
  obtain ⟨-, -, hst⟩ := hs.asset _ a ha'
  refine ⟨d, hdst, fun i => ?_⟩
  rw [supplyIn, assetIn_restaged_of_ne (by simp),
    assetIn_restaged_asset (a := { a with supply := a.supply + amount }) ⟨hst.id, hst.decimals, hsup⟩, hid]
  split
  · rename_i hi
    simp [supplyIn, hi, ha']
  · simp [supplyIn]

theorem supplyIn_burn {auth : Address} {source : String} {amount : Nat} {u : Unit} (hs : Bank.Sound tx.lookup)
    (h : Returns (Bank.burn auth source amount) tx u tx') :
    ∃ s, accountIn tx.lookup (Text.trim source) = some s ∧
      ∀ i, supplyIn tx'.lookup i + (if i = s.asset then amount else 0) = supplyIn tx.lookup i := by
  obtain ⟨s, a, hsrc, -, hle, ha, rfl⟩ := Bank.burn_returns h
  -- the supply covers what the account holds, so the subtraction is exact
  have hcover := hs.burn_guard hsrc hle ha
  obtain ⟨a', ha', hid, htrim⟩ := hs.asset_of_account hsrc
  rw [htrim, ha'] at ha
  cases ha
  obtain ⟨-, -, hst⟩ := hs.asset _ a ha'
  refine ⟨s, hsrc, fun i => ?_⟩
  rw [supplyIn, assetIn_restaged_of_ne (by simp),
    assetIn_restaged_asset (a := { a with supply := a.supply - amount })
      ⟨hst.id, hst.decimals, lt_of_le_of_lt (Nat.sub_le _ _) hst.supply⟩, hid]
  split
  · rename_i hi
    simp only [supplyIn, hi, ha', Option.map_some, Option.getD_some]
    omega
  · simp [supplyIn]

theorem accountAsset_transfer {auth : Address} {source target : String} {amount : Nat} {u : Unit}
    (hs : Bank.Sound tx.lookup) (h : Returns (Bank.transfer auth source target amount) tx u tx') (j : String) :
    (accountIn tx'.lookup j).map Account.asset = (accountIn tx.lookup j).map Account.asset := by
  obtain ⟨s, d, hsrc, hdst, -, -, -, ⟨-, rfl⟩ | ⟨-, -, hv, rfl⟩⟩ := transfer_returns h
  · rfl
  obtain ⟨hsid, hss, -⟩ := hs.account _ s hsrc
  obtain ⟨hdid, hds, -⟩ := hs.account _ d hdst
  rw [← hsid] at hsrc
  rw [← hdid] at hdst
  rw [accountIn_restaged_account (hds.withBalance hv), accountIn_restaged_account (hss.debit amount)]
  split
  · rename_i h1
    rw [h1, hdst]
    rfl
  · split
    · rename_i h2
      rw [h2, hsrc]
      rfl
    · rfl

theorem accountAsset_transferLegs {requester : Address} {legs : List LegTransfer} {u : Unit}
    (hs : Bank.Sound tx.lookup) (h : Returns (transferLegs requester legs) tx u tx') (j : String) :
    (accountIn tx'.lookup j).map Account.asset = (accountIn tx.lookup j).map Account.asset := by
  have hc := transferLegs_chain h
  clear h
  -- soundness is carried along the chain with the equation
  suffices Bank.Sound tx'.lookup ∧ ∀ j, (accountIn tx'.lookup j).map Account.asset =
      (accountIn tx.lookup j).map Account.asset from this.2 j
  induction hc with
  | refl => exact ⟨hs, fun _ => rfl⟩
  | tail _ ht ih =>
    obtain ⟨src, dst, amount, ht⟩ := ht
    exact ⟨ih.1.transfer ht, fun j => (accountAsset_transfer ih.1 ht j).trans (ih.2 j)⟩

end

/-! ## Counting the moves of an operation -/

section
variable {tx tx' tx'' : Tx}

/-- From `tx` to `tx'` every supply moved by `ds`, what the mint channels
issued net of their fees by `dm`, and what the burn channels retired by
`db`. -/
structure Moves (tx tx' : Tx) (ds : String → ℤ) (dm db : ℤ) : Prop where
  supply : ∀ i, (supplyIn tx'.lookup i : ℤ) = supplyIn tx.lookup i + ds i
  minted : mintedNet tx'.lookup = mintedNet tx.lookup + dm
  burned : burnedTotal tx'.lookup = burnedTotal tx.lookup + db

theorem Moves.trans {ds ds' : String → ℤ} {dm dm' db db' : ℤ} (h : Moves tx tx' ds dm db)
    (h' : Moves tx' tx'' ds' dm' db') : Moves tx tx'' (ds + ds') (dm + dm') (db + db') := by
  refine ⟨fun i => ?_, ?_, ?_⟩
  · rw [h'.supply, h.supply, Pi.add_apply, add_assoc]
  · rw [h'.minted, h.minted, add_assoc]
  · rw [h'.burned, h.burned, add_assoc]

theorem Moves.conserves {e : Engine} {ds : String → ℤ} {dm db : ℤ} (h : Moves tx tx' ds dm db)
    (hstable : ds e.stableAsset = dm - db) (hother : ∀ i, i ≠ e.stableAsset → ds i = 0) :
    Conserves e tx.lookup tx'.lookup := by
  refine ⟨?_, fun i hi => ?_⟩
  · rw [h.supply, h.minted, h.burned, hstable]
    ring
  · have := h.supply i
    rw [hother i hi, add_zero] at this
    exact_mod_cast this

theorem Still.moves (h : Still tx tx') : Moves tx tx' 0 0 0 :=
  ⟨fun i => by simp [h.supply i], by simp [mintedNet, h.net], by simp [burnedTotal, h.burned]⟩

theorem Moves.mintTo {auth : Address} {target : String} {amount : Nat} {u : Unit} (hs : Bank.Sound tx.lookup)
    (h : Returns (Bank.mintTo auth target amount) tx u tx') :
    ∃ d, accountIn tx.lookup (Text.trim target) = some d ∧
      Moves tx tx' (fun i => if i = d.asset then (amount : ℤ) else 0) 0 0 := by
  obtain ⟨d, hd, hsup⟩ := supplyIn_mintTo hs h
  obtain ⟨hnet, hburned⟩ := counts_of_bank (Bank.mintTo_stages h)
  refine ⟨d, hd, fun i => ?_, by simp [mintedNet, hnet], by simp [burnedTotal, hburned]⟩
  rw [hsup i]
  split <;> simp

theorem Moves.burn {auth : Address} {source : String} {amount : Nat} {u : Unit} (hs : Bank.Sound tx.lookup)
    (h : Returns (Bank.burn auth source amount) tx u tx') :
    ∃ s, accountIn tx.lookup (Text.trim source) = some s ∧
      Moves tx tx' (fun i => if i = s.asset then -(amount : ℤ) else 0) 0 0 := by
  obtain ⟨s, hs', hsup⟩ := supplyIn_burn hs h
  obtain ⟨hnet, hburned⟩ := counts_of_bank (Bank.burn_stages h)
  refine ⟨s, hs', fun i => ?_, by simp [mintedNet, hnet], by simp [burnedTotal, hburned]⟩
  rw [← hsup i]
  split <;> simp

/-- Storing a mint channel moves what the mint channels issued net of fees
by what it counts over what was counted under its identifier. -/
theorem Moves.putMintChannel {c : MintChannel} {u : Unit} (hst : c.Storable)
    (h : Returns (putMintChannel c) tx u tx') : Moves tx tx' 0 (c.net - netIn tx.lookup c.id) 0 := by
  have hstages := putMintChannel_stages h
  have hnet : ∀ i, netIn tx'.lookup i = if i = c.id then c.net else netIn tx.lookup i := by
    intro i
    rw [netIn, mintChannelIn_putMintChannel hst h]
    split <;> rfl
  -- the channels elsewhere are as they were, so the sums differ at `c.id` only
  have hsum := finsum_add_eq_of_eq_off c.id (finite_netIn tx') (finite_netIn tx) fun i hi => by rw [hnet, if_neg hi]
  rw [hnet, if_pos rfl] at hsum
  refine ⟨fun i => ?_, ?_, ?_⟩
  · rw [supplyIn_of_stages hstages (by rintro k (rfl | rfl) i <;> simp) i, Pi.zero_apply, add_zero]
  · rw [mintedNet, mintedNet]
    linarith
  · rw [burnedTotal, burnedTotal, burnedIn_of_stages hstages (by rintro k (rfl | rfl) id <;> simp), add_zero]

theorem Moves.putBurnChannel {c : BurnChannel} {u : Unit} (hst : c.Storable)
    (h : Returns (putBurnChannel c) tx u tx') :
    Moves tx tx' 0 0 (c.counters.lifetimeIssued - burnedIn tx.lookup c.id) := by
  have hstages := putBurnChannel_stages h
  have hburned : ∀ i, burnedIn tx'.lookup i =
      if i = c.id then (c.counters.lifetimeIssued : ℤ) else burnedIn tx.lookup i := by
    intro i
    rw [burnedIn, burnChannelIn_putBurnChannel hst h]
    split <;> rfl
  have hsum := finsum_add_eq_of_eq_off c.id (finite_burnedIn tx') (finite_burnedIn tx)
    fun i hi => by rw [hburned, if_neg hi]
  rw [hburned, if_pos rfl] at hsum
  refine ⟨fun i => ?_, ?_, ?_⟩
  · rw [supplyIn_of_stages hstages (by rintro k (rfl | rfl) i <;> simp) i, Pi.zero_apply, add_zero]
  · rw [mintedNet, mintedNet, netIn_of_stages hstages (by rintro k (rfl | rfl) id <;> simp), add_zero]
  · rw [burnedTotal, burnedTotal]
    linarith

end

/-! ## Every operation conserves -/

section
variable {e : Engine} {ctx : Context} {tx tx' : Tx}

/-- A mint moves the stable supply by its payout and what the mint channels
issued net of fees by the amount less the fee, that is by the payout too. -/
theorem Conserves.mint {req : MintRequest} {r : MintReceipt × List Event} (hb : Bank.Sound tx.lookup)
    (hc : Channel.Sound tx.lookup) (hctx : ctx.Typed) (h : Returns (Engine.mint e ctx req) tx r tx') :
    Conserves e tx.lookup tx'.lookup := by
  obtain ⟨c, c', signer, rcp, fee, payout, legs, t1, t2, hcin, hid, hst, -, hli, hfee, hsum, hrcp, hasset, h1, h2, h3⟩ :=
    mint_writes hc hctx h
  have hlegs := Still.accounts (transferLegs_stages h1)
  obtain ⟨d, hd, hm2⟩ := Moves.mintTo (hb.transferLegs h1) h2
  -- the legs move balances only, so the recipient still holds the stable asset
  have hda : d.asset = e.stableAsset := by
    have hkeep := accountAsset_transferLegs hb h1 (Text.trim req.recipient)
    rw [hd, hrcp, Option.map_some, Option.map_some, Option.some_inj] at hkeep
    rw [hkeep, hasset]
  -- what the channel counted before is still under its identifier when it is stored
  have hnet : netIn t2.lookup c'.id = c.net := by
    rw [(counts_of_bank (Bank.mintTo_stages h2)).1, hlegs.net, hid, netIn, hcin]
    rfl
  have hm3 := Moves.putMintChannel hst h3
  rw [hnet] at hm3
  refine (hlegs.moves.trans (hm2.trans hm3)).conserves ?_ fun i hi => ?_
  · simp only [Pi.add_apply, Pi.zero_apply, hda, if_true, MintChannel.net, hli, hfee]
    push_cast
    omega
  · simp [hda, hi]

theorem Conserves.burn {req : BurnRequest} {r : BurnReceipt × List Event} (hb : Bank.Sound tx.lookup)
    (hc : Channel.Sound tx.lookup) (hctx : ctx.Typed) (h : Returns (Engine.burn e ctx req) tx r tx') :
    Conserves e tx.lookup tx'.lookup := by
  obtain ⟨c, c', signer, cust, cost, payout, t1, t2, t3, hcin, hid, hst, -, hli, hcust, hasset, h1, h2, h3, h4⟩ :=
    burn_writes hc hctx h
  have hcollect := Still.transfer h1
  obtain ⟨s, hs, hm2⟩ := Moves.burn (hb.transfer h1) h2
  have hpay := Still.transfer h3
  -- the collection moves balances only, so the custody account still holds the stable asset
  have hsa : s.asset = e.stableAsset := by
    have hkeep := accountAsset_transfer hb h1 (Text.trim req.route.stableCustody)
    rw [hs, hcust, Option.map_some, Option.map_some, Option.some_inj] at hkeep
    rw [hkeep, hasset]
  have hburned : burnedIn t3.lookup c'.id = c.counters.lifetimeIssued := by
    rw [hpay.burned, (counts_of_bank (Bank.burn_stages h2)).2, hcollect.burned, hid, burnedIn, hcin]
    rfl
  have hm4 := Moves.putBurnChannel hst h4
  rw [hburned, hli] at hm4
  refine (hcollect.moves.trans (hm2.trans (hpay.moves.trans hm4))).conserves ?_ fun i hi => ?_
  · simp only [Pi.add_apply, Pi.zero_apply, hsa, if_true]
    push_cast
    ring
  · simp [hsa, hi]

theorem Conserves.op {o : Op} {r : o.Result × List Event} (hb : Bank.Sound tx.lookup) (hc : Channel.Sound tx.lookup)
    (hctx : ctx.Typed) (ho : o.Typed) (h : Returns (o.txn e ctx) tx r tx') : Conserves e tx.lookup tx'.lookup := by
  cases o with
  | createAppConfig signer =>
    obtain ⟨-, rfl⟩ := createAppConfig_returns h
    exact (Still.restaged (by simp) (by simp) _).conserves e
  | setAppConfig hours =>
    obtain ⟨c, -, rfl⟩ := setAppConfig_returns h
    exact (Still.restaged (by simp) (by simp) _).conserves e
  | createAsset id decimals authority =>
    obtain ⟨signer, hdec, h1⟩ := Engine.createAsset_returns h
    have hdec : decimals ≤ 19 := checkDecimals_eq_ok.mp hdec
    exact (Still.createAsset ho (by omega) h1).conserves e
  | createFeed id description decimals =>
    obtain ⟨b, rfl⟩ := createFeed_returns h
    exact (Still.restaged (by simp) (by simp) _).conserves e
  | submitRound id answer =>
    obtain ⟨i, b, rfl⟩ := submitRound_returns h
    exact (Still.restaged (by simp) (by simp) _).conserves e
  | openAccount owner id asset =>
    obtain ⟨-, -, -, rfl⟩ := Bank.openAccount_returns (Engine.openAccount_returns h)
    exact (Still.restaged (by simp) (by simp) _).conserves e
  | createMintChannel path capacity =>
    -- a new channel has counted nothing, where nothing was counted before
    obtain ⟨cfg, c, -, hst, -, hzero, hnone, h1, -⟩ := createMintChannel_writes ho.1 ho.2 h
    have hm := Moves.putMintChannel hst h1
    refine hm.conserves ?_ fun _ _ => rfl
    simp [MintChannel.net, netIn, hzero, hnone]
  | setMintChannel id s =>
    obtain ⟨cfg, c, c', -, hcin, hid, hst, -, -, hcnt, h1⟩ := setMintChannel_writes hc ho h
    have hm := Moves.putMintChannel hst h1
    refine hm.conserves ?_ fun _ _ => rfl
    simp [MintChannel.net, netIn, hid, hcin, hcnt]
  | createBurnChannel path =>
    obtain ⟨cfg, c, -, hst, -, hzero, hnone, h1, -⟩ := createBurnChannel_writes ho h
    have hm := Moves.putBurnChannel hst h1
    refine hm.conserves ?_ fun _ _ => rfl
    simp [burnedIn, hzero, hnone]
  | setBurnChannel id s =>
    obtain ⟨cfg, c, c', -, hcin, hid, hst, -, -, hcnt, h1⟩ := setBurnChannel_writes hc ho h
    have hm := Moves.putBurnChannel hst h1
    refine hm.conserves ?_ fun _ _ => rfl
    simp [burnedIn, hid, hcin, hcnt]
  | mint req => exact Conserves.mint hb hc hctx h
  | burn req => exact Conserves.burn hb hc hctx h
  | withdrawFee source destination amount =>
    obtain ⟨signer, src, h1⟩ := withdrawFee_returns h
    exact (Still.transfer h1).conserves e
  | releaseAssetCustody asset next =>
    obtain ⟨signer, h1⟩ := releaseAssetCustody_returns h
    exact (Still.setMintAuthority hb h1).conserves e

end

namespace Engine

/-- Over a run from a reachable store the stable supply moves by net mint
issuance less burn retirement; other supplies stay. -/
theorem stable_supply_conserved {e : Engine} {S S' : Store} (h : Reachable e S)
    (hrun : Relation.ReflTransGen (fun S S' => OpStep e S S' ∨ S' = S) S S') :
    (supplyIn S'.get? e.stableAsset : ℤ) - supplyIn S.get? e.stableAsset =
      (mintedNet S'.get? - mintedNet S.get?) - (burnedTotal S'.get? - burnedTotal S.get?) ∧
    ∀ i, i ≠ e.stableAsset → supplyIn S'.get? i = supplyIn S.get? i := by
  -- the stores along the run stay reachable, which keeps the bank and the channels sound at each step
  suffices Reachable e S' ∧ Conserves e S.get? S'.get? from this.2
  induction hrun with
  | refl => exact ⟨h, .refl e _⟩
  | tail _ hstep ih =>
    obtain ⟨hr, hcons⟩ := ih
    rcases hstep with hstep | rfl
    case inr => exact ⟨hr, hcons⟩
    obtain ⟨ctx, o, r, tx, tx', hctx, ho, hl, hm, hl'⟩ := hstep.returns
    have hb := Bank.Sound.of_reachable hr
    have hc := Channel.Sound.of_reachable hr
    rw [← hl] at hb hc
    have hstep' := Conserves.op hb hc hctx ho hm
    rw [hl, ← hl'] at hstep'
    exact ⟨hr.tail (.inl hstep), hcons.trans hstep'⟩

/-- Over the sample trade, a mint, a burn and a fee withdrawal, the stable
supply moves by what was minted net of fees less what was burned. -/
theorem stable_supply_conserved_over_trade :
    Reachable Sample.engine Sample.opened ∧
    Relation.ReflTransGen (fun S S' => OpStep Sample.engine S S' ∨ S' = S) Sample.opened Sample.traded ∧
    ((supplyIn Sample.traded.get? Sample.engine.stableAsset : ℤ) - supplyIn Sample.opened.get? Sample.engine.stableAsset =
      (mintedNet Sample.traded.get? - mintedNet Sample.opened.get?) - (burnedTotal Sample.traded.get? - burnedTotal Sample.opened.get?) ∧
    ∀ i, i ≠ Sample.engine.stableAsset → supplyIn Sample.traded.get? i = supplyIn Sample.opened.get? i) := by
  have hrun : Relation.ReflTransGen (fun S S' => OpStep Sample.engine S S' ∨ S' = S) Sample.opened Sample.traded :=
    Relation.ReflTransGen.mono (fun _ _ h => Or.inl h) _ _ Sample.trade_opSteps
  exact ⟨Sample.opened_reachable, hrun, stable_supply_conserved Sample.opened_reachable hrun⟩

end Engine

end Issuance
