import Mathlib
import Issuance.Proofs.Store.Reads
import Issuance.Proofs.Engine.Script
import Issuance.Api.Session.Engine
/-! # Quotes agree with conversions

A quote makes, read-only, the reads (`Reads`) a conversion makes before
writing, so a committed conversion was quoted with its figures and a failed
quote means the conversion fails; only the conversion refuses more
(`Oracle.readPrice_supplied`). -/
namespace Issuance

open Store Txn Bank Channel Engine

variable {α : Type} {tx tx' t : Tx}

/-- What a quote reports of a leg: its asset, amount and price. -/
def LegTransfer.figures (l : LegTransfer) : String × Nat × Price := (l.asset, l.amount, l.price)

theorem Store.Txn.Returns.bind_of {β : Type} {m : Txn α} {f : α → Txn β} {a : α} {b : β} {t₁ t₂ : Tx}
    (hm : Returns m tx a t₁) (hf : Returns (f a) t₁ b t₂) : Returns (m >>= f) tx b t₂ := by
  unfold Returns at *
  simp only [Bind.bind, StateT.bind, hm]
  exact hf

theorem Store.Txn.Returns.seq_of {β : Type} {m : Txn PUnit} {k : Txn β} {b : β} {t₁ t₂ : Tx}
    (hm : Returns m tx () t₁) (hk : Returns k t₁ b t₂) : Returns (m *> k) tx b t₂ :=
  Returns.bind_of (f := fun _ => k) hm hk

theorem Store.Txn.Returns.lift_of {r : Except Fault α} {a : α} (h : r = .ok a) : Returns (Txn.lift r) tx a tx := by
  subst h
  rfl

theorem Store.view_of_returns {db : Database} {m : Txn α} {a : α} (h : Returns m { db := db, readOnly := true } a t) :
    view db m = .ok a := by
  unfold view
  rw [show m _ = _ from h]
  rfl

theorem Except.length_of_mapM {ε β γ : Type} {g : β → Except ε γ} :
    ∀ {xs : List β} {ys : List γ}, xs.mapM g = .ok ys → ys.length = xs.length
  | [], ys, h => by
    simp only [List.mapM_nil, pure, Except.pure, Except.ok.injEq] at h
    simp [← h]
  | x :: xs, ys, h => by
    rw [List.mapM_cons] at h
    cases hx : g x with
    | error f =>
      rw [hx] at h
      cases h
    | ok y =>
      rw [hx] at h
      cases hys : xs.mapM g with
      | error f =>
        rw [hys] at h
        cases h
      | ok zs =>
        rw [hys] at h
        cases h
        simp [Except.length_of_mapM hys]

/-! ## The reads of a conversion -/

theorem Feed.reads_load (id : String) : Reads (Feed.load id) := by
  unfold Feed.load
  refine Reads.ite (Reads.throw _) ((Reads.mapFault (reads_read _ _) _).bind fun r => ?_)
  split
  · exact Reads.pure _
  · exact Reads.throw _

theorem Feed.reads_latest (id : String) : Reads (Feed.latest id) := by
  unfold Feed.latest
  refine (Feed.reads_load id).bind fun s => ?_
  split
  · exact Reads.pure _
  · exact Reads.throw _

theorem Oracle.reads_readPrice (o : Oracle) (configured supplied : String) :
    Reads (o.readPrice configured supplied) := by
  unfold Oracle.readPrice
  -- the feed check, the identity price without a feed and the reader check; then the
  -- latest round, its answer's and its age's checks
  refine Reads.guard (Reads.ite (Reads.pure _) (Reads.guard ?_))
  refine (Reads.mapFault (Feed.reads_latest _) _).bind fun r => Reads.guard (Reads.guard ?_)
  split
  · exact Reads.pure _
  · exact Reads.fail _

/-- A requester's feed only has to be the configured one once trimmed; the
price is then the configured feed's. -/
theorem Oracle.readPrice_supplied {o : Oracle} {configured supplied : String} {p : Price}
    (h : Returns (o.readPrice configured supplied) tx p tx') :
    Returns (o.readPrice configured configured) tx p tx' := by
  have htrim : Text.trim supplied = Text.trim configured := by
    unfold Oracle.readPrice at h
    simpa using (Returns.guard h).1
  unfold Oracle.readPrice at h ⊢
  rwa [htrim] at h

theorem Bank.reads_account (id : String) : Reads (Bank.account id) := by
  unfold Bank.account
  refine Reads.ite (Reads.throw _) ((Reads.mapFault (reads_read _ _) _).bind fun r => ?_)
  split
  · exact Reads.pure _
  · exact Reads.throw _

theorem Channel.reads_appConfig : Reads Channel.appConfig :=
  (reads_read _ _).bind fun _ => Reads.pure _

theorem Channel.reads_mintChannel (id : ChannelId) : Reads (Channel.mintChannel id) :=
  (reads_read _ _).bind fun _ => Reads.pure _

theorem Channel.reads_burnChannel (id : ChannelId) : Reads (Channel.burnChannel id) :=
  (reads_read _ _).bind fun _ => Reads.pure _

namespace Engine

theorem reads_requireAppConfig : Reads requireAppConfig := by
  unfold requireAppConfig
  refine Channel.reads_appConfig.bind fun r => ?_
  split
  · exact Reads.pure _
  · exact Reads.fail _

theorem reads_activeMintChannel (id : ChannelId) : Reads (activeMintChannel id) := by
  unfold activeMintChannel
  refine (Channel.reads_mintChannel id).bind fun r => ?_
  split
  · exact Reads.guard (Reads.pure _)
  · exact Reads.fail _

theorem reads_activeBurnChannel (id : ChannelId) : Reads (activeBurnChannel id) := by
  unfold activeBurnChannel
  refine (Channel.reads_burnChannel id).bind fun r => ?_
  split
  · exact Reads.guard (Reads.pure _)
  · exact Reads.fail _

theorem reads_priceLegs (e : Engine) (o : Oracle) (amount : Nat) :
    ∀ legs : List (Leg × String × String × String), Reads (priceLegs e o amount legs)
  | [] => Reads.pure _
  | (leg, feed, source, destination) :: rest => by
    unfold priceLegs
    refine (Reads.mapFault (Oracle.reads_readPrice o _ _) _).bind fun price => ?_
    refine (Reads.lift _).bind fun n => ?_
    exact (reads_priceLegs e o amount rest).bind fun _ => Reads.pure _

theorem reads_quoteMint (e : Engine) (ctx : Context) (id : ChannelId) (amount : Nat) :
    Reads (quoteMint e ctx id amount) := by
  unfold quoteMint
  refine reads_requireAppConfig.bind fun cfg => (reads_activeMintChannel id).bind fun c => ?_
  refine (Reads.lift _).bind fun _ => (Reads.lift _).bind fun _ => ?_
  refine (reads_priceLegs _ _ _ _).bind fun legs => (Reads.lift _).bind fun p => ?_
  exact Reads.pure _

theorem reads_quoteBurn (e : Engine) (ctx : Context) (id : ChannelId) (amount : Nat) :
    Reads (quoteBurn e ctx id amount) := by
  unfold quoteBurn
  refine reads_requireAppConfig.bind fun cfg => (reads_activeBurnChannel id).bind fun c => ?_
  refine (Reads.lift _).bind fun _ => (Oracle.reads_readPrice _ _ _).bind fun price => ?_
  refine (Reads.lift _).bind fun cost => (Reads.lift _).bind fun _ => ?_
  exact (Reads.lift _).bind fun p => Reads.pure _

/-! ## What a conversion read -/

theorem matchRoutes_length {basket : List Leg} {routes matched : List Route}
    (h : matchRoutes basket routes = .ok matched) : matched.length = basket.length := by
  unfold matchRoutes at h
  split at h
  · cases h
  · -- past the table of routes by asset, the basket is mapped leg by leg
    simp only [bind, Except.bind] at h
    split at h
    · cases h
    · exact Except.length_of_mapM h

/-- Each leg a mint routed is its basket leg's, at the price the leg's own
feed gives and the amount the leg takes at that price, between the accounts
its route names. -/
theorem routeLegs_priced {e : Engine} {o : Oracle} {amount : Nat} {requester custodian : Address}
    {pairs : List (Leg × Route)} {legs : List LegTransfer}
    (h : Returns (routeLegs e o amount requester custodian pairs) tx legs tx) :
    List.Forall₂ (fun (lr : Leg × Route) (t : LegTransfer) =>
      Returns (o.readPrice lr.1.priceFeed lr.1.priceFeed) tx t.price tx ∧
        t = ⟨lr.1.asset, lr.2.source, lr.2.destination, t.amount, t.price⟩ ∧
        legAmount e.stableDecimals amount lr.1 t.price = .ok t.amount) pairs legs := by
  induction pairs generalizing legs with
  | nil =>
    obtain ⟨rfl, -⟩ := Returns.pure h
    exact .nil
  | cons p rest ih =>
    obtain ⟨leg, r⟩ := p
    unfold routeLegs at h
    obtain ⟨price, t1, hl, h1⟩ := Returns.bind h
    have hp := returns_mapFault.mp hl
    obtain rfl := Oracle.readPrice_returns hp
    obtain ⟨n, t2, hl, h2⟩ := Returns.bind h1
    obtain ⟨hn, rfl⟩ := Returns.lift hl
    obtain ⟨x, t3, hx, h3⟩ := Returns.bind h2
    obtain ⟨rfl, -⟩ := requireAccount_returns hx
    obtain ⟨y, t4, hy, h4⟩ := Returns.bind h3
    obtain ⟨rfl, -⟩ := requireAccount_returns hy
    obtain ⟨ls, t5, hls, h5⟩ := Returns.bind h4
    obtain ⟨rfl, -⟩ := Returns.pure h5
    obtain rfl := routeLegs_returns hls
    -- the route's feed only had to match the leg's, whose price it then is
    exact .cons ⟨Oracle.readPrice_supplied hp, rfl, hn⟩ (ih hls)

/-- The legs a mint routed, priced again from a transaction that reads alike
with each leg's own feed, come out at the same asset, amount and price. -/
theorem priceLegs_of_routeLegs {e : Engine} {o : Oracle} {amount : Nat} {requester custodian : Address}
    {pairs : List (Leg × Route)} {legs : List LegTransfer}
    (h : Returns (routeLegs e o amount requester custodian pairs) tx legs tx) (hv : tx.SameView t) :
    ∃ quoted, Returns (priceLegs e o amount (pairs.map fun p => (p.1, p.1.priceFeed, "", ""))) t quoted t ∧
      quoted.map LegTransfer.figures = legs.map LegTransfer.figures := by
  have hpriced := routeLegs_priced h
  clear h
  induction hpriced with
  | nil => exact ⟨[], rfl, rfl⟩
  | @cons lr l pairs legs hl _ ih =>
    obtain ⟨hp, hleg, hn⟩ := hl
    obtain ⟨quoted, hq, hfig⟩ := ih
    refine ⟨⟨lr.1.asset, "", "", l.amount, l.price⟩ :: quoted, ?_, ?_⟩
    · rw [List.map_cons, priceLegs]
      refine Returns.bind_of (returns_mapFault.mpr ((Oracle.reads_readPrice o _ _).returns hp hv)) ?_
      refine Returns.bind_of (Returns.lift_of hn) ?_
      exact Returns.bind_of hq rfl
    · rw [hleg]
      simp [LegTransfer.figures, hfig]

/-- The reads of a mint that returned: every check its quote makes, on the
same figures, and the legs it priced and the fee it split reported in its
receipt. -/
theorem mint_reads {e : Engine} {ctx : Context} {req : MintRequest} {r : MintReceipt × List Event}
    (h : Returns (mint e ctx req) tx r tx') :
    ∃ (cfg : AppConfig) (c : MintChannel) (routes : List Route) (legs : List LegTransfer) (fee payout : Nat),
      Returns requireAppConfig tx cfg tx ∧ Returns (activeMintChannel req.channel) tx c tx ∧
      checkAmount req.amount c.minRequestAmount = .ok () ∧ matchRoutes c.basket req.legs = .ok routes ∧
      (snapshot c.counters cfg.rollingPeriodHours ctx.now).checkCaps c.counters req.amount = .ok () ∧
      Returns (routeLegs e (e.oracle ctx) req.amount req.requester cfg.custodialSigner (c.basket.zip routes))
        tx legs tx ∧
      splitFee req.amount c.feeBps = .ok (fee, payout) ∧ r.1.fee = fee ∧ r.1.payout = payout ∧ r.1.legs = legs := by
  unfold mint at h
  obtain ⟨cfg, t1, hcfg, h1⟩ := Returns.bind h
  obtain ⟨rfl, -⟩ := requireAppConfig_returns hcfg
  obtain ⟨c, t2, hc, h2⟩ := Returns.bind h1
  obtain ⟨rfl, -⟩ := activeMintChannel_returns hc
  obtain ⟨t3, hl, h3⟩ := Returns.seq h2
  obtain ⟨hamt, rfl⟩ := Returns.lift hl
  obtain ⟨-, h4⟩ := Returns.guard h3
  obtain ⟨routes, t4, hl, h5⟩ := Returns.bind h4
  obtain ⟨hroutes, rfl⟩ := Returns.lift hl
  obtain ⟨t5, hl, h6⟩ := Returns.seq h5
  obtain ⟨hcaps, rfl⟩ := Returns.lift hl
  obtain ⟨legs, t6, hlegs, h7⟩ := Returns.bind h6
  obtain rfl := routeLegs_returns hlegs
  obtain ⟨rcp, t7, hl, h8⟩ := Returns.bind h7
  obtain ⟨rfl, -⟩ := requireAccount_returns hl
  obtain ⟨⟨fee, payout⟩, t8, hl, h9⟩ := Returns.bind h8
  obtain ⟨hsplit, rfl⟩ := Returns.lift hl
  -- what is left writes, and only then returns the receipt
  obtain ⟨acc, t9, -, h10⟩ := Returns.bind h9
  obtain ⟨t10, -, h11⟩ := Returns.seq h10
  obtain ⟨⟨counters, reset⟩, t11, -, h12⟩ := Returns.bind h11
  obtain ⟨t12, -, h13⟩ := Returns.seq h12
  obtain ⟨t13, -, h14⟩ := Returns.seq h13
  obtain ⟨rfl, -⟩ := Returns.pure h14
  exact ⟨cfg, c, routes, legs, fee, payout, hcfg, hc, hamt, hroutes, hcaps, hlegs, hsplit, rfl, rfl, rfl⟩

/-- The reads of a burn that returned: every check its quote makes, the price
read through the route's feed, and the figures reported in its receipt. -/
theorem burn_reads {e : Engine} {ctx : Context} {req : BurnRequest} {r : BurnReceipt × List Event}
    (h : Returns (burn e ctx req) tx r tx') :
    ∃ (cfg : AppConfig) (c : BurnChannel) (price : Price) (cost fee payout : Nat),
      Returns requireAppConfig tx cfg tx ∧ Returns (activeBurnChannel req.channel) tx c tx ∧
      checkAmount req.amount c.minRequestAmount = .ok () ∧
      Returns ((e.oracle ctx).readPrice c.outputFeed req.route.feed) tx price tx ∧
      stableCost e.stableDecimals req.amount c.outputDecimals price = .ok cost ∧
      (snapshot c.counters cfg.rollingPeriodHours ctx.now).checkCaps c.counters cost = .ok () ∧
      splitFee req.amount c.feeBps = .ok (fee, payout) ∧
      r.1.stableCost = cost ∧ r.1.fee = fee ∧ r.1.payout = payout ∧ r.1.price = price := by
  unfold burn at h
  obtain ⟨cfg, t1, hcfg, h1⟩ := Returns.bind h
  obtain ⟨rfl, -⟩ := requireAppConfig_returns hcfg
  obtain ⟨c, t2, hc, h2⟩ := Returns.bind h1
  obtain ⟨rfl, -⟩ := activeBurnChannel_returns hc
  obtain ⟨t3, hl, h3⟩ := Returns.seq h2
  obtain ⟨hamt, rfl⟩ := Returns.lift hl
  -- the four accounts are checked before the price is read, and read nothing back
  obtain ⟨x, t4, hl, h4⟩ := Returns.bind h3
  obtain ⟨rfl, -⟩ := requireAccount_returns hl
  obtain ⟨y, t5, hl, h5⟩ := Returns.bind h4
  obtain ⟨rfl, -⟩ := requireAccount_returns hl
  obtain ⟨z, t6, hl, h6⟩ := Returns.bind h5
  obtain ⟨rfl, -⟩ := requireAccount_returns hl
  obtain ⟨w, t7, hl, h7⟩ := Returns.bind h6
  obtain ⟨rfl, -⟩ := requireAccount_returns hl
  obtain ⟨price, t8, hp, h8⟩ := Returns.bind h7
  obtain rfl := Oracle.readPrice_returns hp
  obtain ⟨cost, t9, hl, h9⟩ := Returns.bind h8
  obtain ⟨hcost, rfl⟩ := Returns.lift hl
  obtain ⟨t10, hl, h10⟩ := Returns.seq h9
  obtain ⟨hcaps, rfl⟩ := Returns.lift hl
  obtain ⟨⟨fee, payout⟩, t11, hl, h11⟩ := Returns.bind h10
  obtain ⟨hsplit, rfl⟩ := Returns.lift hl
  -- what is left writes, and only then returns the receipt
  obtain ⟨acc, t12, -, h12⟩ := Returns.bind h11
  obtain ⟨t13, -, h13⟩ := Returns.seq h12
  obtain ⟨t14, -, h14⟩ := Returns.seq h13
  obtain ⟨⟨counters, reset⟩, t15, -, h15⟩ := Returns.bind h14
  obtain ⟨t16, -, h16⟩ := Returns.seq h15
  obtain ⟨t17, -, h17⟩ := Returns.seq h16
  obtain ⟨rfl, -⟩ := Returns.pure h17
  exact ⟨cfg, c, price, cost, fee, payout, hcfg, hc, hamt, hp, hcost, hcaps, hsplit, rfl, rfl, rfl, rfl⟩

theorem quoteMint_of_mint {e : Engine} {ctx : Context} {req : MintRequest} {r : MintReceipt × List Event}
    (h : Returns (mint e ctx req) tx r tx') (hv : tx.SameView t) :
    ∃ q, Returns (quoteMint e ctx req.channel req.amount) t q t ∧ q.fee = r.1.fee ∧ q.payout = r.1.payout ∧
      q.legs.map LegTransfer.figures = r.1.legs.map LegTransfer.figures := by
  obtain ⟨cfg, c, routes, legs, fee, payout, hcfg, hc, hamt, hroutes, hcaps, hlegs, hsplit, hfee, hpay, hl⟩ :=
    mint_reads h
  obtain ⟨quoted, hq, hfig⟩ := priceLegs_of_routeLegs hlegs hv
  have hlen := matchRoutes_length hroutes
  -- the mint's legs are the basket's, each paired with its route
  have hbasket : (c.basket.zip routes).map (fun p => (p.1, p.1.priceFeed, "", "")) =
      c.basket.map fun l => (l, l.priceFeed, "", "") := by
    rw [show (fun p : Leg × Route => (p.1, p.1.priceFeed, "", "")) =
      (fun l : Leg => (l, l.priceFeed, "", "")) ∘ Prod.fst from rfl, ← List.map_map,
      List.map_fst_zip (by omega)]
  refine ⟨⟨req.channel, req.amount, fee, payout, quoted⟩, ?_, hfee.symm, hpay.symm, by rw [hl]; exact hfig⟩
  unfold quoteMint
  refine Returns.bind_of (reads_requireAppConfig.returns hcfg hv) ?_
  refine Returns.bind_of ((reads_activeMintChannel _).returns hc hv) ?_
  refine Returns.seq_of (Returns.lift_of hamt) ?_
  refine Returns.seq_of (Returns.lift_of hcaps) ?_
  refine Returns.bind_of (hbasket ▸ hq) ?_
  exact Returns.bind_of (Returns.lift_of hsplit) rfl

theorem quoteBurn_of_burn {e : Engine} {ctx : Context} {req : BurnRequest} {r : BurnReceipt × List Event}
    (h : Returns (burn e ctx req) tx r tx') (hv : tx.SameView t) :
    ∃ q, Returns (quoteBurn e ctx req.channel req.amount) t q t ∧ q.stableCost = r.1.stableCost ∧
      q.fee = r.1.fee ∧ q.payout = r.1.payout ∧ q.price = r.1.price := by
  obtain ⟨cfg, c, price, cost, fee, payout, hcfg, hc, hamt, hp, hcost, hcaps, hsplit, hc', hfee, hpay, hpr⟩ :=
    burn_reads h
  refine ⟨⟨req.channel, req.amount, cost, fee, payout, price⟩, ?_, hc'.symm, hfee.symm, hpay.symm, hpr.symm⟩
  unfold quoteBurn
  refine Returns.bind_of (reads_requireAppConfig.returns hcfg hv) ?_
  refine Returns.bind_of ((reads_activeBurnChannel _).returns hc hv) ?_
  refine Returns.seq_of (Returns.lift_of hamt) ?_
  refine Returns.bind_of ((Oracle.reads_readPrice _ _ _).returns (Oracle.readPrice_supplied hp) hv) ?_
  refine Returns.bind_of (Returns.lift_of hcost) ?_
  refine Returns.seq_of (Returns.lift_of hcaps) ?_
  exact Returns.bind_of (Returns.lift_of hsplit) rfl

/-! ## Quotes and conversions over a database -/

/-- A committed conversion was quoted with its own figures, a failed quote
fails every such conversion, and a quote writes nothing. -/
theorem quotes_agree_with_conversions (e : Engine) (ctx : Context) (db : Database) :
    (∀ req r db', atomic db (mint e ctx req) = .ok (r, db') →
      ∃ q, view db (quoteMint e ctx req.channel req.amount) = .ok q ∧ q.fee = r.1.fee ∧ q.payout = r.1.payout ∧
        q.legs.map LegTransfer.figures = r.1.legs.map LegTransfer.figures) ∧
    (∀ id amount f, view db (quoteMint e ctx id amount) = .error f →
      ∀ requester routes recipient, ∃ f', atomic db (mint e ctx ⟨id, requester, amount, routes, recipient⟩) = .error f') ∧
    (∀ req r db', atomic db (burn e ctx req) = .ok (r, db') →
      ∃ q, view db (quoteBurn e ctx req.channel req.amount) = .ok q ∧ q.stableCost = r.1.stableCost ∧
        q.fee = r.1.fee ∧ q.payout = r.1.payout ∧ q.price = r.1.price) ∧
    (∀ id amount f, view db (quoteBurn e ctx id amount) = .error f →
      ∀ requester route, ∃ f', atomic db (burn e ctx ⟨id, requester, amount, route⟩) = .error f') ∧
    ∀ id amount, Reads (quoteMint e ctx id amount) ∧ Reads (quoteBurn e ctx id amount) := by
  have hmint : ∀ req r db', atomic db (mint e ctx req) = .ok (r, db') →
      ∃ q, view db (quoteMint e ctx req.channel req.amount) = .ok q ∧ q.fee = r.1.fee ∧ q.payout = r.1.payout ∧
        q.legs.map LegTransfer.figures = r.1.legs.map LegTransfer.figures := by
    intro req r db' h
    obtain ⟨tx', hm, -⟩ := atomic_eq_ok h
    obtain ⟨q, hq, hfig⟩ := quoteMint_of_mint hm (Tx.sameView_start db)
    exact ⟨q, view_of_returns hq, hfig⟩
  have hburn : ∀ req r db', atomic db (burn e ctx req) = .ok (r, db') →
      ∃ q, view db (quoteBurn e ctx req.channel req.amount) = .ok q ∧ q.stableCost = r.1.stableCost ∧
        q.fee = r.1.fee ∧ q.payout = r.1.payout ∧ q.price = r.1.price := by
    intro req r db' h
    obtain ⟨tx', hm, -⟩ := atomic_eq_ok h
    obtain ⟨q, hq, hfig⟩ := quoteBurn_of_burn hm (Tx.sameView_start db)
    exact ⟨q, view_of_returns hq, hfig⟩
  refine ⟨hmint, ?_, hburn, ?_, fun id amount => ⟨reads_quoteMint e ctx id amount, reads_quoteBurn e ctx id amount⟩⟩
  -- a conversion that committed would have been quoted
  · intro id amount f hf requester routes recipient
    cases h : atomic db (mint e ctx ⟨id, requester, amount, routes, recipient⟩) with
    | error f' => exact ⟨f', rfl⟩
    | ok p =>
      obtain ⟨q, hq, -⟩ := hmint _ p.1 p.2 h
      rw [hf] at hq
      cases hq
  · intro id amount f hf requester route
    cases h : atomic db (burn e ctx ⟨id, requester, amount, route⟩) with
    | error f' => exact ⟨f', rfl⟩
    | ok p =>
      obtain ⟨q, hq, -⟩ := hburn _ p.1 p.2 h
      rw [hf] at hq
      cases hq

/-- The sample mint and burn commit, so their quotes answer and agree with them. -/
theorem sample_conversions_quoted :
    (∃ r db', atomic { store := Sample.opened } (mint Sample.engine (Sample.ctxAt 1700000060) Sample.mintRequest) = .ok (r, db') ∧
      ∃ q, view { store := Sample.opened } (quoteMint Sample.engine (Sample.ctxAt 1700000060) Sample.mintRequest.channel Sample.mintRequest.amount) = .ok q ∧
        q.fee = r.1.fee ∧ q.payout = r.1.payout ∧ q.legs.map LegTransfer.figures = r.1.legs.map LegTransfer.figures) ∧
    ∃ r db', atomic { store := Sample.minted } (burn Sample.engine (Sample.ctxAt 1700000120) Sample.burnRequest) = .ok (r, db') ∧
      ∃ q, view { store := Sample.minted } (quoteBurn Sample.engine (Sample.ctxAt 1700000120) Sample.burnRequest.channel Sample.burnRequest.amount) = .ok q ∧
        q.stableCost = r.1.stableCost ∧ q.fee = r.1.fee ∧ q.payout = r.1.payout ∧ q.price = r.1.price := by
  obtain ⟨r, db', hat⟩ := Sample.mint_commits
  obtain ⟨r', db'', hat'⟩ := Sample.burn_commits
  exact ⟨⟨r, db', hat, (quotes_agree_with_conversions _ _ _).1 _ r db' hat⟩,
    r', db'', hat', (quotes_agree_with_conversions _ _ _).2.2.1 _ r' db'' hat'⟩

end Engine

end Issuance
