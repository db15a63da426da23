import Mathlib
import Issuance.Proofs.Engine.Balances
import Issuance.Proofs.Engine.Quotes
import Issuance.Proofs.Engine.Listing
import Issuance.Proofs.Engine.IssuanceRate
/-! # What a conversion does to the store

A committed mint moves balances by its legs and payout, raises the stable
supply by the payout and advances its counters by the window rule; a burn
moves its cost into custody, retires it, pays the output less the fee and
advances its counters. Nothing else changes. `Counters.issue` is the plain
rule where the window's end does not wrap (`Counters.issue_of_end_lt`). -/
namespace Issuance

open Store Txn Bank Channel Engine

/-! ## The figures of a conversion -/

/-- What a leg of a mint of `amount` takes at `price`, rounding down at each
step. -/
def Leg.take (stableDecimals amount : Nat) (l : Leg) (price : Price) : Nat :=
  amount * l.weightBps / Amount.basisPoints * price.precision / price.value * 10 ^ l.decimals /
    10 ^ stableDecimals

/-- What `out` of an output asset costs at `price` in the stable unit, rounding
down at each step. -/
def Price.cost (p : Price) (stableDecimals out outputDecimals : Nat) : Nat :=
  out * p.value / p.precision * 10 ^ stableDecimals / 10 ^ outputDecimals

theorem Except.ok_of_bind {ε α β : Type} {x : Except ε α} {f : α → Except ε β} {b : β} (h : (x >>= f) = .ok b) :
    ∃ a, x = .ok a ∧ f a = .ok b := by
  cases hx : x with
  | error e =>
    rw [hx] at h
    cases h
  | ok a =>
    rw [hx] at h
    exact ⟨a, rfl, h⟩

theorem legAmount_eq_ok {sd amount : Nat} {l : Leg} {p : Price} {n : Nat} (h : legAmount sd amount l p = .ok n) :
    n = l.take sd amount p ∧ (0 < l.weightBps → 0 < n) := by
  unfold legAmount at h
  obtain ⟨v, h1, h⟩ := Except.ok_of_bind h
  obtain ⟨c, h2, h⟩ := Except.ok_of_bind h
  obtain ⟨ls, h3, h⟩ := Except.ok_of_bind h
  obtain ⟨ss, h4, h⟩ := Except.ok_of_bind h
  obtain ⟨out, h5, h⟩ := Except.ok_of_bind h
  split at h
  · cases h
  rename_i hpos
  cases h
  obtain ⟨-, -, rfl⟩ := Amount.mulDiv_eq_ok.mp h1
  obtain ⟨-, -, rfl⟩ := Amount.mulDiv_eq_ok.mp h2
  obtain ⟨-, rfl⟩ := Amount.pow10_eq_ok.mp h3
  obtain ⟨-, rfl⟩ := Amount.pow10_eq_ok.mp h4
  obtain ⟨-, -, rfl⟩ := Amount.mulDiv_eq_ok.mp h5
  refine ⟨rfl, fun hw => ?_⟩
  simp only [Bool.and_eq_true, decide_eq_true_eq, not_and] at hpos
  exact Nat.pos_of_ne_zero fun h0 => hpos h0 hw

theorem stableCost_eq_ok {sd out od : Nat} {p : Price} {cost : Nat} (h : stableCost sd out od p = .ok cost) :
    cost = p.cost sd out od ∧ 0 < cost := by
  unfold stableCost at h
  obtain ⟨v, h1, h⟩ := Except.ok_of_bind h
  obtain ⟨ss, h2, h⟩ := Except.ok_of_bind h
  obtain ⟨os, h3, h⟩ := Except.ok_of_bind h
  obtain ⟨c, h4, h⟩ := Except.ok_of_bind h
  split at h
  · cases h
  rename_i hpos
  cases h
  obtain ⟨-, -, rfl⟩ := Amount.mulDiv_eq_ok.mp h1
  obtain ⟨-, rfl⟩ := Amount.pow10_eq_ok.mp h2
  obtain ⟨-, rfl⟩ := Amount.pow10_eq_ok.mp h3
  obtain ⟨-, -, rfl⟩ := Amount.mulDiv_eq_ok.mp h4
  exact ⟨rfl, Nat.pos_of_ne_zero hpos⟩

/-! ## The window rule -/

/-- The window still runs at `now`: its end, taken as a signed 64-bit time, is
after `now`. -/
def Counters.running (c : Counters) (hours : Nat) (now : Int) : Bool :=
  decide (now < wrapTime (c.periodAnchor + hours * 3600))

/-- The counters after issuing `x` at `now` with fee `fee`: a running window
grows by `x`; an ended one reopens at `now` (at least the epoch) counting `x`. -/
def Counters.issue (c : Counters) (hours : Nat) (now : Int) (x fee : Nat) : Counters :=
  if c.running hours now then
    { c with lifetimeIssued := c.lifetimeIssued + x
             periodIssued := c.periodIssued + x
             accumulatedFee := c.accumulatedFee + fee }
  else
    { c with lifetimeIssued := c.lifetimeIssued + x
             periodIssued := x
             periodAnchor := max now 0
             accumulatedFee := c.accumulatedFee + fee }

theorem Counters.issue_of_end_lt {c : Counters} {hours x fee : Nat} {now : Int} (h0 : 0 ≤ c.periodAnchor)
    (hend : c.periodAnchor + hours * 3600 < 2 ^ 63) :
    c.issue hours now x fee =
      if now < c.periodAnchor + hours * 3600 then
        { c with lifetimeIssued := c.lifetimeIssued + x
                 periodIssued := c.periodIssued + x
                 accumulatedFee := c.accumulatedFee + fee }
      else
        { c with lifetimeIssued := c.lifetimeIssued + x
                 periodIssued := x
                 periodAnchor := now
                 accumulatedFee := c.accumulatedFee + fee } := by
  unfold Counters.issue Counters.running
  rw [wrapTime_of_lt (by omega) hend]
  by_cases hrun : now < c.periodAnchor + hours * 3600
  · simp [hrun]
  · -- the window ended at or after the epoch, so `now` is not before it
    have hnow : max now 0 = now := max_eq_left (by omega)
    simp [hrun, hnow]

/-- Counters with an anchor in range, advanced by a conversion and written back
with the fee kept, read back as the window rule says. -/
theorem Snapshot.apply_issue {c c' : Counters} {hours x fee : Nat} {now : Int} {reset : Bool}
    (h0 : 0 ≤ c.periodAnchor) (hlt : c.periodAnchor < 2 ^ 63) (hnow : now < 2 ^ 63)
    (happ : (snapshot c hours now).apply c x = .ok (c', reset)) :
    ({ c' with accumulatedFee := c.accumulatedFee + fee } : Counters).reread = c.issue hours now x fee ∧
      reset = !c.running hours now := by
  obtain ⟨hli, hpi, hlc, hpc, hfee, -⟩ := Snapshot.apply_eq_ok happ
  obtain ⟨hreset, hanchor⟩ := Snapshot.apply_reset happ
  have hrun : (snapshot c hours now).inWindow = c.running hours now := by
    simp only [snapshot, Counters.running, gt_iff_lt]
  rw [hrun] at hreset hanchor
  rw [snapshot_issued, hrun] at hpi
  refine ⟨?_, hreset⟩
  cases c'
  simp only at hli hpi hlc hpc hfee hanchor
  subst hli hlc hpc hfee
  unfold Counters.issue
  cases hr : c.running hours now with
  | false =>
    -- the window has ended: the new one opens at the conversion's time
    simp only [hr, if_false, Bool.false_eq_true] at hpi hanchor ⊢
    subst hpi
    simp only [Counters.reread, Counters.mk.injEq, true_and, and_true, hanchor]
    exact ⟨Nat.zero_add x, Counters.reread_periodAnchor (c := { c with periodAnchor := now }) hnow⟩
  | true =>
    -- the window runs on: its anchor, within the range, reads back as it is
    simp only [hr, if_true] at hpi hanchor ⊢
    subst hpi
    simp only [Counters.reread, Counters.mk.injEq, true_and, and_true, hanchor]
    exact (Counters.reread_periodAnchor (c := c) hlt).trans (max_eq_left h0)

/-! ## Every window starts within the range -/

namespace Channel

/-- Every channel's window starts within the signed 64-bit range. -/
def AnchorsInRange (L : Bytes → Option Bytes) : Prop :=
  ∀ k id c, countersIn L k id = some c → 0 ≤ c.periodAnchor ∧ c.periodAnchor < 2 ^ 63

theorem WindowStep.anchor_range {hours : Nat} {now : Int} {x : Option Counters} {d : Option Conversion}
    {c' : Counters} (h : WindowStep hours now x d (some c'))
    (hx : ∀ c, x = some c → 0 ≤ c.periodAnchor ∧ c.periodAnchor < 2 ^ 63) (hnow : now < 2 ^ 63) :
    0 ≤ c'.periodAnchor ∧ c'.periodAnchor < 2 ^ 63 := by
  cases h with
  | create => exact ⟨le_rfl, by norm_num⟩
  | @setCaps c _ _ =>
    obtain ⟨h0, hlt⟩ := hx _ rfl
    simp only [Counters.reread_periodAnchor, hlt]
    omega
  | @convert c c₁ _ _ _ _ happ =>
    obtain ⟨h0, hlt⟩ := hx _ rfl
    -- the conversion keeps the anchor or moves it to its own time
    have ha : c₁.periodAnchor = c.periodAnchor ∨ c₁.periodAnchor = now := (Snapshot.apply_eq_ok happ).2.2.2.2.2
    have h₁ : c₁.periodAnchor < 2 ^ 63 := by omega
    simp only [Counters.reread_periodAnchor, h₁]
    omega

theorem anchorsInRange_of_reachable {e : Engine} {S : Store} (h : Reachable e S) : AnchorsInRange S.get? := by
  refine (h.views (I := fun L => Channel.Sound L ∧ AnchorsInRange L) ⟨Channel.Sound.empty, ?_⟩ ?_ ?_).2
  · intro k id c hc
    have hnone : ∀ key, ({} : Store).get? key = none := fun _ => rfl
    cases k <;> simp [countersIn, mintChannelIn, burnChannelIn, recordAt, hnone] at hc
  · rintro ctx o r tx tx' hctx ho ⟨hs, ha⟩ hret
    refine ⟨hs.op hctx ho hret, fun k id c hc => ?_⟩
    rcases Op.moves hs hctx ho hret k id with ⟨hsame, -⟩ | ⟨cfg, -, hstep⟩
    · exact ha k id c (hsame ▸ hc)
    · rw [hc] at hstep
      exact hstep.anchor_range (fun c₀ h₀ => ha k id c₀ h₀) hctx.now
  · rintro c r tx tx' - ⟨hs, ha⟩ hret
    have hst := BankCall.stages hret
    exact ⟨hs.bank hst fun _ hk => hk,
      fun k id c' hc => ha k id c' (by rwa [countersIn_bank hst (fun _ hk => hk)] at hc)⟩

/-! ## Storing a listed channel -/

section
variable {tx tx' : Tx} {k : Kind} {ids : List ChannelId}

theorem Listing.bank (hL : Listing tx.lookup k ids) (h : tx.Stages Bank.IsKey tx') : Listing tx'.lookup k ids :=
  hL.stages h fun _ hk => ⟨fun he => not_isKey_indexKey k (he ▸ hk), fun id he => not_isKey_recordKey k id (he ▸ hk)⟩

theorem Listing.record_frame {id : ChannelId} {v : Option Bytes} {u : PUnit} (hL : Listing tx.lookup k ids)
    (hfit : ids.length < 2 ^ 58) (hin : id ∈ ids)
    (h : Returns (append (indexKey k) id.bytes) (tx.restaged (recordKey k id) v) u tx') {key : Bytes}
    (hkey : key ≠ recordKey k id) : tx'.lookup key = tx.lookup key := by
  have hl : (tx.restaged (recordKey k id) v).lookup (indexKey k) = indexBytes ids := by
    rw [Tx.lookup_restaged, if_neg (by simp)]
    exact hL.index
  obtain ⟨hst, hidx⟩ := index_append h hl hfit
  rw [if_pos hin] at hidx
  by_cases hk : key = indexKey k
  · rw [hk, hidx, hL.index]
  · rw [hst.lookup hk, Tx.lookup_restaged, if_neg hkey]

end

end Channel

/-! ## A mint -/

namespace Engine

/-- The fee kept of `amount` at `feeBps` basis points, rounding down. -/
def feeAt (amount feeBps : Nat) : Nat := amount * feeBps / Amount.basisPoints

/-- What a mint that returned `r` did from `L` to `L'`, each leg priced as
`priced` says. -/
structure MintEffect (e : Engine) (ctx : Context) (req : MintRequest) (priced : String → Price → Prop)
    (L L' : Bytes → Option Bytes) (r : MintReceipt) (cfg : AppConfig) (c : MintChannel) (routes : List Route) :
    Prop where
  settings : appConfigIn L = some cfg
  channel : mintChannelIn L req.channel = some c
  routed : matchRoutes c.basket req.legs = .ok routes
  legs : List.Forall₂ (fun (lr : Leg × Route) (t : LegTransfer) => priced lr.1.priceFeed t.price ∧
      t = ⟨lr.1.asset, lr.2.source, lr.2.destination, lr.1.take e.stableDecimals req.amount t.price, t.price⟩ ∧
      (0 < lr.1.weightBps → 0 < t.amount))
    (c.basket.zip routes) r.legs
  receipt : r = ⟨ctx.fresh, req.channel, req.requester, req.recipient, req.amount, feeAt req.amount c.feeBps,
    req.amount - feeAt req.amount c.feeBps, r.legs, !c.counters.running cfg.rollingPeriodHours ctx.now, ctx.now⟩
  balances : Shift L L'
    (fun j => (r.legs.map (LegTransfer.delta j)).sum +
      if j = Text.trim req.recipient then ((req.amount - feeAt req.amount c.feeBps : Nat) : ℤ) else 0)
    (fun i => if i = e.stableAsset then ((req.amount - feeAt req.amount c.feeBps : Nat) : ℤ) else 0)
  counters : mintChannelIn L' req.channel =
    some { c with counters := c.counters.issue cfg.rollingPeriodHours ctx.now req.amount (feeAt req.amount c.feeBps) }
  frame : ∀ k, ¬ Bank.IsKey k → k ≠ recordKey .mint req.channel → L' k = L k

theorem MintEffect.mono {e : Engine} {ctx : Context} {req : MintRequest} {priced priced' : String → Price → Prop}
    {L L' : Bytes → Option Bytes} {r : MintReceipt} {cfg : AppConfig} {c : MintChannel} {routes : List Route}
    (h : MintEffect e ctx req priced L L' r cfg c routes) (hp : ∀ l p, priced l p → priced' l p) :
    MintEffect e ctx req priced' L L' r cfg c routes :=
  { h with legs := h.legs.imp fun _ _ ⟨hl, ht, hpos⟩ => ⟨hp _ _ hl, ht, hpos⟩ }

section
variable {e : Engine} {ctx : Context} {tx tx' : Tx} {mints : List ChannelId}

theorem mint_effect_of_returns {req : MintRequest} {r : MintReceipt × List Event} (hb : Bank.Sound tx.lookup)
    (hc : Channel.Sound tx.lookup) (ha : AnchorsInRange tx.lookup) (hL : Listing tx.lookup .mint mints)
    (hfit : mints.length < 2 ^ 58) (hnow : ctx.now < 2 ^ 63) (h : Returns (mint e ctx req) tx r tx') :
    ∃ cfg c routes, MintEffect e ctx req
      (fun f p => Returns ((e.oracle ctx).readPrice f f) tx p tx) tx.lookup tx'.lookup r.1
      cfg c routes := by
  obtain ⟨cfg, c, rcp, fee, payout, counters, reset, legs, t1, t2, hcfg, hcin, -, -, hcaps, hrcp, hasset, hsplit,
    hfee, h1, happ, h2, h3, hr⟩ := mint_returns h
  obtain ⟨cfg', c', routes, legs', fee', payout', hcfg', hc', -, hroutes, -, hlegs, hsplit', -, -, hl⟩ :=
    mint_reads h
  -- both readings of the mint found the same settings, channel, fee and legs
  obtain ⟨-, hcfg'⟩ := requireAppConfig_returns hcfg'
  rw [hcfg, Option.some_inj] at hcfg'
  subst hcfg'
  obtain ⟨-, hc', -⟩ := activeMintChannel_returns hc'
  rw [hcin, Option.some_inj] at hc'
  subst hc'
  rw [hsplit, Except.ok.injEq, Prod.mk.injEq] at hsplit'
  obtain ⟨rfl, rfl⟩ := hsplit'
  obtain rfl : legs' = legs := by rw [← hl, hr]
  obtain ⟨rfl, -, rfl⟩ := splitFee_eq_ok hsplit
  obtain ⟨hid, hst, -⟩ := hc.mint _ c hcin
  obtain ⟨h0, hlt⟩ := ha .mint req.channel c.counters (by simp [countersIn, hcin])
  obtain ⟨hissue, hreset⟩ :=
    @Snapshot.apply_issue _ _ _ _ (req.amount * c.feeBps / Amount.basisPoints) _ _ h0 hlt hnow happ
  obtain ⟨hcs, -⟩ := hst.counters.convert hnow hcaps happ hfee
  -- the legs and the issue write the bank's records, the channel its own
  have hs1 := Shift.transferLegs hb h1
  obtain ⟨d, hd, hs2⟩ := Shift.mintTo (hb.transferLegs h1) h2
  have hs3 := Shift.of_stages (putMintChannel_stages h3) (by rintro k (rfl | rfl) <;> simp)
  -- the legs move balances only, so the recipient still holds the stable asset
  have hda : d.asset = e.stableAsset := by
    have hkeep := accountAsset_transferLegs hb h1 (Text.trim req.recipient)
    rw [hd, hrcp, Option.map_some, Option.map_some, Option.some_inj] at hkeep
    rw [hkeep, hasset]
  have hbank : tx.Stages Bank.IsKey t2 := (stages_of_accounts (transferLegs_stages h1)).trans (mintTo_stages h2)
  have hlisted : c.id ∈ mints := (hL.stored c.id).mp (by simp [countersIn, hid, hcin])
  refine ⟨cfg, c, routes, ⟨hcfg, hcin, hroutes, ?_, ?_, ?_, ?_, fun k hk hkc => ?_⟩⟩
  · rw [hl]
    refine (routeLegs_priced hlegs).imp fun lr t hleg => ?_
    obtain ⟨hp, ht, hn⟩ := hleg
    refine ⟨hp, ?_, (legAmount_eq_ok hn).2⟩
    rw [← (legAmount_eq_ok hn).1]
    exact ht
  · rw [hr, hreset]
    rfl
  · refine (hs1.trans (hs2.trans hs3)).of_eq (fun j => ?_) fun i => ?_
    · simp [hr, feeAt]
    · simp [hda, feeAt]
  · rw [mintChannelIn_putMintChannel (by exact { hst with counters := hcs }) h3, if_pos hid.symm]
    simp only [Option.some_inj]
    rw [hissue]
    rfl
  · rw [Listing.record_frame (hL.bank hbank) hfit hlisted (putMintChannel_returns h3).2 (by rwa [hid]),
      hbank.lookup hk]

end

/-! ## A burn -/

/-- What a burn that returned `r` did from `L` to `L'`, at the price `priced`
says. -/
structure BurnEffect (e : Engine) (ctx : Context) (req : BurnRequest) (priced : String → Price → Prop)
    (L L' : Bytes → Option Bytes) (r : BurnReceipt) (cfg : AppConfig) (c : BurnChannel) : Prop where
  settings : appConfigIn L = some cfg
  channel : burnChannelIn L req.channel = some c
  price : priced c.outputFeed r.price
  cost : r.stableCost = r.price.cost e.stableDecimals req.amount c.outputDecimals
  cost_pos : 0 < r.stableCost
  receipt : r = ⟨ctx.fresh, req.channel, req.requester, c.outputAsset, req.amount, r.stableCost,
    feeAt req.amount c.feeBps, req.amount - feeAt req.amount c.feeBps, r.price,
    !c.counters.running cfg.rollingPeriodHours ctx.now, ctx.now⟩
  balances : Shift L L'
    (fun j => transferDelta req.route.stableSource req.route.stableCustody r.stableCost j -
      (if j = Text.trim req.route.stableCustody then (r.stableCost : ℤ) else 0) +
      transferDelta req.route.outputSource req.route.outputDestination (req.amount - feeAt req.amount c.feeBps) j)
    (fun i => if i = e.stableAsset then -(r.stableCost : ℤ) else 0)
  counters : burnChannelIn L' req.channel =
    some { c with counters := c.counters.issue cfg.rollingPeriodHours ctx.now r.stableCost (feeAt req.amount c.feeBps) }
  frame : ∀ k, ¬ Bank.IsKey k → k ≠ recordKey .burn req.channel → L' k = L k

theorem BurnEffect.mono {e : Engine} {ctx : Context} {req : BurnRequest} {priced priced' : String → Price → Prop}
    {L L' : Bytes → Option Bytes} {r : BurnReceipt} {cfg : AppConfig} {c : BurnChannel}
    (h : BurnEffect e ctx req priced L L' r cfg c) (hp : ∀ f p, priced f p → priced' f p) :
    BurnEffect e ctx req priced' L L' r cfg c :=
  { h with price := hp _ _ h.price }

section
variable {e : Engine} {ctx : Context} {tx tx' : Tx} {burns : List ChannelId}

theorem burn_effect_of_returns {req : BurnRequest} {r : BurnReceipt × List Event} (hb : Bank.Sound tx.lookup)
    (hc : Channel.Sound tx.lookup) (ha : AnchorsInRange tx.lookup) (hL : Listing tx.lookup .burn burns)
    (hfit : burns.length < 2 ^ 58) (hnow : ctx.now < 2 ^ 63) (h : Returns (burn e ctx req) tx r tx') :
    ∃ cfg c, BurnEffect e ctx req (fun f p => Returns ((e.oracle ctx).readPrice f f) tx p tx) tx.lookup tx'.lookup
      r.1 cfg c := by
  obtain ⟨cfg, c, cust, cost, fee, payout, counters, reset, price, t1, t2, t3, hcfg, hcin, -, hcust, hasset, hcaps,
    hsplit, hfee, h1, h2, happ, h3, h4, hr⟩ := burn_returns h
  obtain ⟨cfg', c', price', cost', -, -, hcfg', hc', -, hp, hcost, -, -, hrc, -, -, hrp⟩ := burn_reads h
  -- both readings of the burn found the same settings, channel, price and cost
  obtain ⟨-, hcfg'⟩ := requireAppConfig_returns hcfg'
  rw [hcfg, Option.some_inj] at hcfg'
  subst hcfg'
  obtain ⟨-, hc', -⟩ := activeBurnChannel_returns hc'
  rw [hcin, Option.some_inj] at hc'
  subst hc'
  obtain rfl : cost' = cost := by rw [← hrc, hr]
  obtain rfl : price' = price := by rw [← hrp, hr]
  obtain ⟨rfl, -, rfl⟩ := splitFee_eq_ok hsplit
  obtain ⟨hid, hst, -⟩ := hc.burn _ c hcin
  obtain ⟨h0, hlt⟩ := ha .burn req.channel c.counters (by simp [countersIn, hcin])
  obtain ⟨hissue, hreset⟩ :=
    @Snapshot.apply_issue _ _ _ _ (req.amount * c.feeBps / Amount.basisPoints) _ _ h0 hlt hnow happ
  obtain ⟨hcs, -⟩ := hst.counters.convert hnow hcaps happ hfee
  -- the three bank steps write the bank's records, the channel its own
  have hs1 := Shift.transfer hb h1
  obtain ⟨s, hs, hs2⟩ := Shift.burn (hb.transfer h1) h2
  have hs3 := Shift.transfer ((hb.transfer h1).burn h2) h3
  have hs4 := Shift.of_stages (putBurnChannel_stages h4) (by rintro k (rfl | rfl) <;> simp)
  -- the transfer moves balances only, so custody still holds the stable asset
  have hsa : s.asset = e.stableAsset := by
    have hkeep := accountAsset_transfer hb h1 (Text.trim req.route.stableCustody)
    rw [hs, hcust, Option.map_some, Option.map_some, Option.some_inj] at hkeep
    rw [hkeep, hasset]
  have hbank : tx.Stages Bank.IsKey t3 :=
    ((stages_of_accounts (transfer_stages h1)).trans (burn_stages h2)).trans (stages_of_accounts (transfer_stages h3))
  have hlisted : c.id ∈ burns := (hL.stored c.id).mp (by simp [countersIn, hid, hcin])
  refine ⟨cfg, c, ⟨hcfg, hcin, ?_, ?_, ?_, ?_, ?_, ?_, fun k hk hkc => ?_⟩⟩
  · rw [hr]
    exact Oracle.readPrice_supplied hp
  · rw [hr]
    exact (stableCost_eq_ok hcost).1
  · rw [hr]
    exact (stableCost_eq_ok hcost).2
  · rw [hr, hreset]
    rfl
  · refine (hs1.trans (hs2.trans (hs3.trans hs4))).of_eq (fun j => ?_) fun i => ?_
    · simp [hr, feeAt]
      split_ifs <;> ring
    · simp [hr, hsa]
  · rw [burnChannelIn_putBurnChannel (by exact { hst with counters := hcs }) h4, if_pos hid.symm]
    simp only [Option.some_inj]
    rw [hissue, hr]
    rfl
  · rw [Listing.record_frame (hL.bank hbank) hfit hlisted (putBurnChannel_returns h4).2 (by rwa [hid]),
      hbank.lookup hk]

end

/-! ## Conversions on the stores the engine reaches -/

section
variable {e : Engine} {ℓs : List Label} {S : Store}

theorem Run.conversion_invariants (h : Run e (fun _ ℓ _ => ℓ.PeriodFits) {} ℓs S)
    (hm : (created .mint ℓs).length < 2 ^ 58) (hb : (created .burn ℓs).length < 2 ^ 58) :
    Bank.Sound S.get? ∧ Channel.Sound S.get? ∧ AnchorsInRange S.get? ∧
      Catalog S.get? (created .mint ℓs) (created .burn ℓs) := by
  have hR := h.reachable .refl
  exact ⟨Bank.Sound.of_reachable hR, Channel.Sound.of_reachable hR, anchorsInRange_of_reachable hR,
    Catalog.of_run h hm hb⟩

theorem view_readPrice {o : Oracle} {db : Database} {f : String} {p : Price}
    (h : Returns (o.readPrice f f) { db := db } p { db := db }) : view db (o.readPrice f f) = .ok p :=
  view_of_returns ((Oracle.reads_readPrice o f f).returns h (Tx.sameView_start db))

/-- Every mint that commits on a reachable store did what `MintEffect` says. -/
theorem mint_effect (hrun : Run e (fun _ ℓ _ => ℓ.PeriodFits) {} ℓs S)
    (hm : (created .mint ℓs).length < 2 ^ 58) (hb : (created .burn ℓs).length < 2 ^ 58) (db : Database)
    (hdb : db.store = S) (ctx : Context) (hnow : ctx.now < 2 ^ 63) :
    ∀ req r db', atomic db (mint e ctx req) = .ok (r, db') →
      ∃ cfg c routes, MintEffect e ctx req (fun f p => view db ((e.oracle ctx).readPrice f f) = .ok p)
        S.get? db'.store.get? r.1 cfg c routes := by
  intro req r db' h
  obtain ⟨tx', hret, hcommit⟩ := atomic_eq_ok h
  have hview : ({ db := db } : Tx).lookup = S.get? := by rw [Tx.lookup_start, hdb]
  obtain ⟨hbs, hcs, has, hC⟩ := hrun.conversion_invariants hm hb
  rw [← hview] at hbs hcs has hC
  obtain ⟨cfg, c, routes, hE⟩ := mint_effect_of_returns hbs hcs has hC.mint hm hnow hret
  rw [hview, ← atomic_lookup (Op.stages (o := .mint req) hret) hcommit] at hE
  exact ⟨cfg, c, routes, hE.mono fun _ _ => view_readPrice⟩

/-- Every burn that commits on a reachable store did what `BurnEffect` says. -/
theorem burn_effect (hrun : Run e (fun _ ℓ _ => ℓ.PeriodFits) {} ℓs S)
    (hm : (created .mint ℓs).length < 2 ^ 58) (hb : (created .burn ℓs).length < 2 ^ 58) (db : Database)
    (hdb : db.store = S) (ctx : Context) (hnow : ctx.now < 2 ^ 63) :
    ∀ req r db', atomic db (burn e ctx req) = .ok (r, db') →
      ∃ cfg c, BurnEffect e ctx req (fun f p => view db ((e.oracle ctx).readPrice f f) = .ok p)
        S.get? db'.store.get? r.1 cfg c := by
  intro req r db' h
  obtain ⟨tx', hret, hcommit⟩ := atomic_eq_ok h
  have hview : ({ db := db } : Tx).lookup = S.get? := by rw [Tx.lookup_start, hdb]
  obtain ⟨hbs, hcs, has, hC⟩ := hrun.conversion_invariants hm hb
  rw [← hview] at hbs hcs has hC
  obtain ⟨cfg, c, hE⟩ := burn_effect_of_returns hbs hcs has hC.burn hb hnow hret
  rw [hview, ← atomic_lookup (Op.stages (o := .burn req) hret) hcommit] at hE
  exact ⟨cfg, c, hE.mono fun _ _ => view_readPrice⟩

end

/-- The sample mint commits after the setup, with the effect of a mint. -/
theorem mint_effect_after_setup :
    Run Sample.engine (fun _ ℓ _ => ℓ.PeriodFits) {} (Script.labels Sample.engine Sample.setup {}) Sample.opened ∧
      (created .mint (Script.labels Sample.engine Sample.setup {})).length < 2 ^ 58 ∧ (created .burn (Script.labels Sample.engine Sample.setup {})).length < 2 ^ 58 ∧
      (Sample.ctxAt 1700000060).now < 2 ^ 63 ∧
      ∃ r db', atomic { store := Sample.opened } (mint Sample.engine (Sample.ctxAt 1700000060) Sample.mintRequest) = .ok (r, db') ∧
        ∃ cfg c routes, MintEffect Sample.engine (Sample.ctxAt 1700000060) Sample.mintRequest
          (fun f p => view { store := Sample.opened } ((Sample.engine.oracle (Sample.ctxAt 1700000060)).readPrice f f) = .ok p)
          Sample.opened.get? db'.store.get? r.1 cfg c routes := by
  have h := (Sample.stages Sample.history_periodsFit).1
  have hrun := Script.run_decide h
  have hlen : ∀ k, (created k (Script.labels Sample.engine Sample.setup {})).length < 2 ^ 58 := fun k =>
    (List.length_filterMap_le _ _).trans_lt (by rw [Script.length_run (Script.run_eq h)]; decide)
  obtain ⟨r, db', hat⟩ := Sample.mint_commits
  exact ⟨hrun, hlen .mint, hlen .burn, by decide, r, db', hat,
    mint_effect hrun (hlen .mint) (hlen .burn) _ rfl _ (by decide) _ r db' hat⟩

/-- The sample burn commits after the sample mint, with the effect of a burn. -/
theorem burn_effect_after_mint :
    Run Sample.engine (fun _ ℓ _ => ℓ.PeriodFits) {} (Script.labels Sample.engine Sample.setup {} ++ Script.labels Sample.engine [Sample.minting] Sample.opened) Sample.minted ∧
      (created .mint (Script.labels Sample.engine Sample.setup {} ++ Script.labels Sample.engine [Sample.minting] Sample.opened)).length < 2 ^ 58 ∧ (created .burn (Script.labels Sample.engine Sample.setup {} ++ Script.labels Sample.engine [Sample.minting] Sample.opened)).length < 2 ^ 58 ∧
      (Sample.ctxAt 1700000120).now < 2 ^ 63 ∧
      ∃ r db', atomic { store := Sample.minted } (burn Sample.engine (Sample.ctxAt 1700000120) Sample.burnRequest) = .ok (r, db') ∧
        ∃ cfg c, BurnEffect Sample.engine (Sample.ctxAt 1700000120) Sample.burnRequest
          (fun f p => view { store := Sample.minted } ((Sample.engine.oracle (Sample.ctxAt 1700000120)).readPrice f f) = .ok p)
          Sample.minted.get? db'.store.get? r.1 cfg c := by
  obtain ⟨h₁, -, h₂, -⟩ := Sample.stages Sample.history_periodsFit
  have hrun := (Script.run_decide h₁).append (Script.run_decide h₂)
  have hlen : ∀ k, (created k (Script.labels Sample.engine Sample.setup {} ++ Script.labels Sample.engine [Sample.minting] Sample.opened)).length < 2 ^ 58 := fun k =>
    (List.length_filterMap_le _ _).trans_lt (by
      rw [List.length_append, Script.length_run (Script.run_eq h₁), Script.length_run (Script.run_eq h₂)]
      decide)
  obtain ⟨r, db', hat⟩ := Sample.burn_commits
  exact ⟨hrun, hlen .mint, hlen .burn, by decide, r, db', hat,
    burn_effect hrun (hlen .mint) (hlen .burn) _ rfl _ (by decide) _ r db' hat⟩

end Engine

end Issuance
