import Mathlib
import Issuance.Proofs.Channel.Limiter
import Issuance.Proofs.Engine.ChannelSound
import Issuance.Proofs.Engine.Trace
/-! # What each step does to the windows

A step moves a channel's counters (`countersIn`) in one of three ways
(`WindowStep`): fresh counters, new caps, or a conversion advancing the
window; every other step leaves them (`MovesWindow`). -/
namespace Issuance

open Store Txn Channel Engine

namespace Channel

/-- The counters of the channel of kind `k` under `id` in the view `L`. -/
def countersIn (L : Bytes → Option Bytes) : Kind → ChannelId → Option Counters
  | .mint, id => (mintChannelIn L id).map (·.counters)
  | .burn, id => (burnChannelIn L id).map (·.counters)

/-- How one step moves the counters of a channel, recording a conversion or
none, with the rolling period `hours` and the clock at `now`. -/
inductive WindowStep (hours : Nat) (now : Int) : Option Counters → Option Conversion → Option Counters → Prop
  | create : WindowStep hours now none none (some {})
  | setCaps {c : Counters} {l : Limits} : checkCapsAgainst c l hours now = .ok () →
      WindowStep hours now (some c) none (some { c with lifetimeCap := l.lifetimeCap, periodCap := l.periodCap }.reread)
  | convert {c c' : Counters} {x fee : Nat} {reset : Bool} :
      (snapshot c hours now).checkCaps c x = .ok () → (snapshot c hours now).apply c x = .ok (c', reset) →
      WindowStep hours now (some c) (some ⟨now, x, reset⟩) (some { c' with accumulatedFee := fee }.reread)

/-- A step leaves a channel's counters and records nothing, or moves them by a
window step recording `d`. -/
def MovesWindow (L L' : Bytes → Option Bytes) (now : Int) (k : Kind) (id : ChannelId) (d : Option Conversion) :
    Prop :=
  (countersIn L' k id = countersIn L k id ∧ d = none) ∨
    ∃ cfg : AppConfig, appConfigIn L = some cfg ∧
      WindowStep cfg.rollingPeriodHours now (countersIn L k id) d (countersIn L' k id)

theorem Counters.reread_default : ({} : Counters).reread = {} := by decide

theorem Counters.reread_periodAnchor {c : Counters} (h : c.periodAnchor < 2 ^ 63) :
    c.reread.periodAnchor = max c.periodAnchor 0 := by
  have h63 : Nat.pow 2 63 = 2 ^ 63 := rfl
  simp only [Counters.reread, signedOf, storedAnchor, h63]
  split <;> split <;> omega

theorem Counters.reread_of_anchor {c : Counters} (h0 : 0 ≤ c.periodAnchor) (h : c.periodAnchor < 2 ^ 63) :
    c.reread = c := by
  have ha := Counters.reread_periodAnchor h
  rw [max_eq_left h0] at ha
  cases c
  simp only [Counters.reread] at ha ⊢
  rw [ha]

section
variable {tx tx' : Tx} {k : Kind} {id : ChannelId}

theorem countersIn_of_stages {P : Bytes → Prop} (h : tx.Stages P tx') (hP : ∀ key, P key → ∀ id, key ≠ recordKey k id)
    (id : ChannelId) : countersIn tx'.lookup k id = countersIn tx.lookup k id := by
  cases k with
  | mint => rw [countersIn, countersIn, mintChannelIn, recordAt_of_stages h fun hk => hP _ hk id rfl]; rfl
  | burn => rw [countersIn, countersIn, burnChannelIn, recordAt_of_stages h fun hk => hP _ hk id rfl]; rfl

theorem countersIn_bank {P : Bytes → Prop} (h : tx.Stages P tx') (hP : ∀ k, P k → Bank.IsKey k) (k : Kind)
    (id : ChannelId) : countersIn tx'.lookup k id = countersIn tx.lookup k id :=
  countersIn_of_stages h (fun key hk id he => by
    rcases hP key hk with ⟨i, rfl⟩ | ⟨j, rfl⟩ <;> simp at he) id

theorem countersIn_restaged {key : Bytes} (hk : ∀ kind id, key ≠ recordKey kind id) (v : Option Bytes) (k : Kind)
    (id : ChannelId) : countersIn (tx.restaged key v).lookup k id = countersIn tx.lookup k id :=
  countersIn_of_stages (.restaged rfl v) (fun _ h id => h ▸ hk k id) id

/-- After a storable mint channel is stored, its counters are the mint
channel's under its identifier, reread. -/
theorem countersIn_putMintChannel {c : MintChannel} {u : Unit} (hst : c.Storable)
    (h : Returns (putMintChannel c) tx u tx') (k : Kind) (id : ChannelId) :
    countersIn tx'.lookup k id =
      if k = .mint ∧ id = c.id then some c.counters.reread else countersIn tx.lookup k id := by
  cases k with
  | mint =>
    simp only [countersIn, mintChannelIn_putMintChannel hst h, true_and]
    split <;> rfl
  | burn =>
    rw [if_neg (by simp)]
    simp only [countersIn, burnChannelIn]
    rw [recordAt_of_stages (putMintChannel_stages h) (by rintro (h | h) <;> simp at h)]

theorem countersIn_putBurnChannel {c : BurnChannel} {u : Unit} (hst : c.Storable)
    (h : Returns (putBurnChannel c) tx u tx') (k : Kind) (id : ChannelId) :
    countersIn tx'.lookup k id =
      if k = .burn ∧ id = c.id then some c.counters.reread else countersIn tx.lookup k id := by
  cases k with
  | mint =>
    rw [if_neg (by simp)]
    simp only [countersIn, mintChannelIn]
    rw [recordAt_of_stages (putBurnChannel_stages h) (by rintro (h | h) <;> simp at h)]
  | burn =>
    simp only [countersIn, burnChannelIn_putBurnChannel hst h, true_and]
    split <;> rfl

theorem MovesWindow.same {L L' : Bytes → Option Bytes} {now : Int} (h : countersIn L' k id = countersIn L k id) :
    MovesWindow L L' now k id none :=
  .inl ⟨h, rfl⟩

end

end Channel

namespace Engine

/-- The conversion a step records on channel `id` of kind `k`: time,
amount (stable cost for a burn) and whether it opened a window. -/
def Label.conversion (k : Kind) (id : ChannelId) : Label → Option Conversion
  | .op _ (.mint _) r =>
    if k = .mint ∧ r.1.channel = id then some ⟨r.1.timestamp, r.1.amount, r.1.windowReset⟩ else none
  | .op _ (.burn _) r =>
    if k = .burn ∧ r.1.channel = id then some ⟨r.1.timestamp, r.1.stableCost, r.1.windowReset⟩ else none
  | _ => none

section
variable {e : Engine} {ctx : Context} {tx tx' : Tx} {k : Kind} {id : ChannelId}

theorem createMintChannel_moves {path : String} {capacity : Nat} {r : MintChannel × List Event}
    (hp : Text.Short path) (hcap : capacity < 2 ^ 16) (h : Returns (createMintChannel path capacity) tx r tx') :
    MovesWindow tx.lookup tx'.lookup ctx.now k id none := by
  obtain ⟨cfg, c, hcfg, hst, -, hzero, hnone, h1, -⟩ := createMintChannel_writes hp hcap h
  rw [MovesWindow, countersIn_putMintChannel hst h1]
  split_ifs with hk
  · obtain ⟨rfl, rfl⟩ := hk
    refine .inr ⟨cfg, hcfg, ?_⟩
    rw [countersIn, hnone, hzero, Counters.reread_default]
    exact .create
  · exact .inl ⟨rfl, rfl⟩

theorem createBurnChannel_moves {path : String} {r : BurnChannel × List Event} (hp : Text.Short path)
    (h : Returns (createBurnChannel path) tx r tx') : MovesWindow tx.lookup tx'.lookup ctx.now k id none := by
  obtain ⟨cfg, c, hcfg, hst, -, hzero, hnone, h1, -⟩ := createBurnChannel_writes hp h
  rw [MovesWindow, countersIn_putBurnChannel hst h1]
  split_ifs with hk
  · obtain ⟨rfl, rfl⟩ := hk
    refine .inr ⟨cfg, hcfg, ?_⟩
    rw [countersIn, hnone, hzero, Counters.reread_default]
    exact .create
  · exact .inl ⟨rfl, rfl⟩

theorem setMintChannel_moves {i : ChannelId} {s : MintSettings} {r : MintChannel × List Event}
    (hs : Channel.Sound tx.lookup) (ho : (Op.setMintChannel i s).Typed)
    (h : Returns (setMintChannel ctx.now i s) tx r tx') : MovesWindow tx.lookup tx'.lookup ctx.now k id none := by
  obtain ⟨cfg, c, c', hcfg, hc, hid, hst, -, hcaps, hcnt, h1⟩ := setMintChannel_writes hs ho h
  rw [MovesWindow, countersIn_putMintChannel hst h1]
  split_ifs with hk
  · obtain ⟨rfl, rfl⟩ := hk
    refine .inr ⟨cfg, hcfg, ?_⟩
    rw [countersIn, hid, hc, hcnt]
    exact .setCaps hcaps
  · exact .inl ⟨rfl, rfl⟩

theorem setBurnChannel_moves {i : ChannelId} {s : BurnSettings} {r : BurnChannel × List Event}
    (hs : Channel.Sound tx.lookup) (ho : (Op.setBurnChannel i s).Typed)
    (h : Returns (setBurnChannel ctx.now i s) tx r tx') : MovesWindow tx.lookup tx'.lookup ctx.now k id none := by
  obtain ⟨cfg, c, c', hcfg, hc, hid, hst, -, hcaps, hcnt, h1⟩ := setBurnChannel_writes hs ho h
  rw [MovesWindow, countersIn_putBurnChannel hst h1]
  split_ifs with hk
  · obtain ⟨rfl, rfl⟩ := hk
    refine .inr ⟨cfg, hcfg, ?_⟩
    rw [countersIn, hid, hc, hcnt]
    exact .setCaps hcaps
  · exact .inl ⟨rfl, rfl⟩

theorem mint_moves {req : MintRequest} {r : MintReceipt × List Event} (hs : Channel.Sound tx.lookup)
    (hctx : ctx.Typed) (h : Returns (mint e ctx req) tx r tx') :
    MovesWindow tx.lookup tx'.lookup ctx.now k id (Label.conversion k id (.op ctx (.mint req) r)) := by
  obtain ⟨cfg, c, rcp, fee, payout, counters, reset, legs, t1, t2, hcfg, hc, -, -, hcaps, -, -, -, hfee, h1, happ,
    h2, h3, hr⟩ := mint_returns h
  obtain ⟨hid, hst, -⟩ := hs.mint _ c hc
  obtain ⟨hcs, -⟩ := hst.counters.convert hctx.now hcaps happ hfee
  have hst' : MintChannel.Storable
      { c with counters := { counters with accumulatedFee := c.counters.accumulatedFee + fee } } :=
    { hst with counters := hcs }
  -- the legs and the issue write the bank's records only
  have hbank : ∀ k id, countersIn t2.lookup k id = countersIn tx.lookup k id := fun k id => by
    rw [countersIn_bank (Bank.mintTo_stages h2) (fun _ hk => hk), countersIn_bank (transferLegs_stages h1)
      (fun _ => accounts_isKey)]
  have hconv : Label.conversion k id (.op ctx (.mint req) r) =
      if k = .mint ∧ req.channel = id then some ⟨ctx.now, req.amount, reset⟩ else none := by
    simp only [Label.conversion, hr]
  rw [← hid] at hconv hc
  rw [MovesWindow, countersIn_putMintChannel hst' h3, hbank, hconv]
  by_cases hk : k = .mint ∧ id = c.id
  · obtain ⟨rfl, rfl⟩ := hk
    rw [if_pos ⟨rfl, rfl⟩, if_pos ⟨rfl, rfl⟩]
    refine .inr ⟨cfg, hcfg, ?_⟩
    rw [countersIn, hc]
    exact .convert hcaps happ
  · rw [if_neg hk, if_neg fun h' => hk ⟨h'.1, h'.2.symm⟩]
    exact .inl ⟨rfl, rfl⟩

/-- A burn advances the window of its channel by the stable cost at the
settings' period and records itself there. -/
theorem burn_moves {req : BurnRequest} {r : BurnReceipt × List Event} (hs : Channel.Sound tx.lookup)
    (hctx : ctx.Typed) (h : Returns (burn e ctx req) tx r tx') :
    MovesWindow tx.lookup tx'.lookup ctx.now k id (Label.conversion k id (.op ctx (.burn req) r)) := by
  obtain ⟨cfg, c, cust, cost, fee, payout, counters, reset, price, t1, t2, t3, hcfg, hc, -, -, -, hcaps, -, hfee,
    h1, h2, happ, h3, h4, hr⟩ := burn_returns h
  obtain ⟨hid, hst, -⟩ := hs.burn _ c hc
  obtain ⟨hcs, -⟩ := hst.counters.convert hctx.now hcaps happ hfee
  have hst' : BurnChannel.Storable
      { c with counters := { counters with accumulatedFee := c.counters.accumulatedFee + fee } } :=
    { hst with counters := hcs }
  -- the collection, the burn and the payout write the bank's records only
  have hbank : ∀ k id, countersIn t3.lookup k id = countersIn tx.lookup k id := fun k id => by
    rw [countersIn_bank (Bank.transfer_stages h3) (fun _ => accounts_isKey),
      countersIn_bank (Bank.burn_stages h2) (fun _ hk => hk),
      countersIn_bank (Bank.transfer_stages h1) (fun _ => accounts_isKey)]
  have hconv : Label.conversion k id (.op ctx (.burn req) r) =
      if k = .burn ∧ req.channel = id then some ⟨ctx.now, cost, reset⟩ else none := by
    simp only [Label.conversion, hr]
  rw [← hid] at hconv hc
  rw [MovesWindow, countersIn_putBurnChannel hst' h4, hbank, hconv]
  by_cases hk : k = .burn ∧ id = c.id
  · obtain ⟨rfl, rfl⟩ := hk
    rw [if_pos ⟨rfl, rfl⟩, if_pos ⟨rfl, rfl⟩]
    refine .inr ⟨cfg, hcfg, ?_⟩
    rw [countersIn, hc]
    exact .convert hcaps happ
  · rw [if_neg hk, if_neg fun h' => hk ⟨h'.1, h'.2.symm⟩]
    exact .inl ⟨rfl, rfl⟩

/-- Every operation moves the counters of every channel as `MovesWindow`
says, recording the conversion its label shows on that channel. -/
theorem Op.moves {o : Op} {r : o.Result × List Event} (hs : Channel.Sound tx.lookup) (hctx : ctx.Typed)
    (ho : o.Typed) (h : Returns (o.txn e ctx) tx r tx') (k : Kind) (id : ChannelId) :
    MovesWindow tx.lookup tx'.lookup ctx.now k id (Label.conversion k id (.op ctx o r)) := by
  cases o with
  | createAppConfig signer =>
    obtain ⟨-, rfl⟩ := createAppConfig_returns h
    exact .same (countersIn_restaged (by simp) _ k id)
  | setAppConfig hours =>
    obtain ⟨c, -, rfl⟩ := setAppConfig_returns h
    exact .same (countersIn_restaged (by simp) _ k id)
  | createAsset i decimals authority =>
    obtain ⟨signer, -, h1⟩ := Engine.createAsset_returns h
    exact .same (countersIn_bank (Bank.createAsset_stages h1) (fun _ hk => hk) k id)
  | createFeed i description decimals =>
    obtain ⟨b, rfl⟩ := createFeed_returns h
    exact .same (countersIn_restaged (by simp) _ k id)
  | submitRound i answer =>
    obtain ⟨j, b, rfl⟩ := submitRound_returns h
    exact .same (countersIn_restaged (by simp) _ k id)
  | openAccount owner i asset =>
    exact .same (countersIn_bank (Bank.openAccount_stages (Engine.openAccount_returns h)) (fun _ hk => hk) k id)
  | createMintChannel path capacity => exact createMintChannel_moves ho.1 ho.2 h
  | setMintChannel i s => exact setMintChannel_moves hs ho h
  | createBurnChannel path => exact createBurnChannel_moves ho h
  | setBurnChannel i s => exact setBurnChannel_moves hs ho h
  | mint req => exact mint_moves hs hctx h
  | burn req => exact burn_moves hs hctx h
  | withdrawFee source destination amount =>
    obtain ⟨signer, src, h1⟩ := withdrawFee_returns h
    exact .same (countersIn_bank (Bank.transfer_stages h1) (fun _ => accounts_isKey) k id)
  | releaseAssetCustody asset next =>
    obtain ⟨signer, h1⟩ := releaseAssetCustody_returns h
    exact .same (countersIn_bank (Bank.setMintAuthority_stages h1) (fun _ hk => hk) k id)

end

section
variable {e : Engine} {S S' : Store} {k : Kind} {id : ChannelId}

/-- An operation step of a run from a reachable store moves every channel's
counters as `MovesWindow` says, at the step's clock. -/
theorem Label.Step.moves_op {ctx : Context} {o : Op} {r : o.Result × List Event} (hS : Reachable e S)
    (h : (Label.op ctx o r).Step e S S') (k : Kind) (id : ChannelId) :
    ctx.Typed ∧ MovesWindow S.get? S'.get? ctx.now k id (Label.conversion k id (.op ctx o r)) := by
  obtain ⟨hctx, ho, tx, tx', hl, hm, hl'⟩ := h.op_returns
  have hs : Channel.Sound tx.lookup := hl ▸ Channel.Sound.of_reachable hS
  refine ⟨hctx, ?_⟩
  rw [← hl, hl']
  exact Op.moves hs hctx ho hm k id

theorem Label.Step.moves_call {c : BankCall} {r : c.Result} (h : (Label.call c r).Step e S S') (k : Kind)
    (id : ChannelId) : countersIn S'.get? k id = countersIn S.get? k id ∧ appConfigIn S'.get? = appConfigIn S.get? := by
  obtain ⟨-, tx, tx', hl, -, hs, hl'⟩ := h.call_returns
  rw [← hl, hl']
  refine ⟨countersIn_bank hs (fun _ hk => hk) k id, ?_⟩
  rw [appConfigIn, appConfigIn, recordAt_of_stages hs]
  rintro (⟨i, hi⟩ | ⟨j, hj⟩)
  · exact Bank.assetKey_ne_appConfigKey i hi.symm
  · exact Bank.accountKey_ne_appConfigKey j hj.symm

end

end Engine

end Issuance
