import Mathlib
import Issuance.Proofs.Bank.Steps
import Issuance.Proofs.Channel.Records
import Issuance.Engine.Admin
import Issuance.Engine.Convert
import Issuance.Engine.Query
/-! # What each engine operation does

One lemma per operation and helper says what a successful run reads, checks
and writes; later modules use these lemmas and never unfold the operations. -/
namespace Issuance

open Store Txn Bank Channel

variable {α : Type} {tx tx' : Tx}

namespace Feed

theorem returns_io {m : Txn α} {a : α} : Returns (io m) tx a tx' ↔ Returns m tx a tx' :=
  returns_mapFault

theorem load_returns {id : String} {s : Stored} (h : Returns (load id) tx s tx') : tx' = tx := by
  unfold load at h
  obtain ⟨-, h1⟩ := Returns.guard h
  obtain ⟨r, t1, hr, h2⟩ := Returns.bind h1
  obtain ⟨rfl, -⟩ := (returns_io.mp hr).read
  split at h2
  · exact (Returns.pure h2).2
  · cases h2

theorem latest_returns {id : String} {r : Round} (h : Returns (latest id) tx r tx') : tx' = tx := by
  unfold latest at h
  obtain ⟨s, t1, hs, h1⟩ := Returns.bind h
  obtain rfl := load_returns hs
  split at h1
  · exact (Returns.pure h1).2
  · cases h1

theorem create_returns {id description : String} {decimals : Nat} {f : PriceFeed}
    (h : Returns (create id description decimals) tx f tx') : ∃ b, tx' = tx.restaged (key (Text.trim id)) (some b) := by
  unfold create at h
  obtain ⟨-, h1⟩ := Returns.guard h
  obtain ⟨-, h2⟩ := Returns.guard h1
  obtain ⟨b, t1, hb, h3⟩ := Returns.bind h2
  obtain ⟨-, rfl, -⟩ := (returns_io.mp hb).has
  obtain ⟨-, h4⟩ := Returns.guard h3
  obtain ⟨t2, h5, h6⟩ := Returns.seq h4
  obtain ⟨-, rfl⟩ := Returns.pure h6
  exact ⟨_, (returns_io.mp h5).write.2.2⟩

theorem submit_returns {id : String} {answer time : Int} {r : Round} (h : Returns (submit id answer time) tx r tx') :
    ∃ i b, tx' = tx.restaged (key i) (some b) := by
  unfold submit at h
  obtain ⟨s, t1, hs, h1⟩ := Returns.bind h
  obtain rfl := load_returns hs
  obtain ⟨-, h2⟩ := Returns.guard h1
  obtain ⟨-, h3⟩ := Returns.guard h2
  obtain ⟨u, t2, h4, h5⟩ := Returns.bind h3
  have hw := (returns_io.mp h4).write.2.2
  split at h5 <;> exact ⟨_, _, (Returns.pure h5).2 ▸ hw⟩

end Feed

theorem Oracle.readPrice_returns {o : Oracle} {configured supplied : String} {p : Price}
    (h : Returns (o.readPrice configured supplied) tx p tx') : tx' = tx := by
  unfold Oracle.readPrice at h
  obtain ⟨-, h1⟩ := Returns.guard h
  split at h1
  · exact (Returns.pure h1).2
  obtain ⟨-, h2⟩ := Returns.guard h1
  obtain ⟨r, t1, hr, h3⟩ := Returns.bind h2
  obtain rfl := Feed.latest_returns (returns_mapFault.mp hr)
  obtain ⟨-, h4⟩ := Returns.guard h3
  obtain ⟨-, h5⟩ := Returns.guard h4
  split at h5
  · exact (Returns.pure h5).2
  · exact absurd h5 not_returns_fail

namespace Engine

theorem bankStep_returns {g : Bank.Error → Fault} {m : Bank.Step α} {a : α} :
    Returns (bankStep g m) tx a tx' ↔ Returns m tx a tx' :=
  returns_mapFault

/-- An account required for a role exists under its trimmed name, holds the
asset and, when an owner is named, belongs to it. -/
theorem requireAccount_returns {role id asset : String} {owner : Option Address} {a : Account}
    (h : Returns (requireAccount role id asset owner) tx a tx') :
    tx' = tx ∧ accountIn tx.lookup (Text.trim id) = some a ∧ a.asset = asset ∧ ∀ o, owner = some o → a.owner = o := by
  unfold requireAccount at h
  obtain ⟨-, h1⟩ := Returns.guard h
  obtain ⟨x, t1, hx, h2⟩ := Returns.bind h1
  obtain ⟨rfl, hx⟩ := account_returns (bankStep_returns.mp hx)
  obtain ⟨ha, h3⟩ := Returns.guard h2
  have ha : x.asset = asset := by simpa using ha
  split at h3
  · rename_i o
    split at h3
    · exact absurd h3 not_returns_fail
    · rename_i ho
      obtain ⟨rfl, rfl⟩ := Returns.pure h3
      exact ⟨rfl, hx, ha, fun o' ho' => by cases ho'; simpa using ho⟩
  · obtain ⟨rfl, rfl⟩ := Returns.pure h3
    exact ⟨rfl, hx, ha, fun o' ho' => by cases ho'⟩

theorem requireAppConfig_returns {c : AppConfig} (h : Returns requireAppConfig tx c tx') :
    tx' = tx ∧ appConfigIn tx.lookup = some c := by
  unfold requireAppConfig at h
  obtain ⟨r, t1, hr, h1⟩ := Returns.bind h
  obtain ⟨rfl, rfl⟩ := appConfig_returns hr
  split at h1
  · rename_i c' hc
    obtain ⟨rfl, rfl⟩ := Returns.pure h1
    exact ⟨rfl, hc⟩
  · exact absurd h1 not_returns_fail

theorem activeMintChannel_returns {id : ChannelId} {c : MintChannel} (h : Returns (activeMintChannel id) tx c tx') :
    tx' = tx ∧ mintChannelIn tx.lookup id = some c ∧ c.active = true := by
  unfold activeMintChannel at h
  obtain ⟨r, t1, hr, h1⟩ := Returns.bind h
  obtain ⟨rfl, rfl⟩ := mintChannel_returns hr
  split at h1
  · rename_i c' hc
    obtain ⟨ha, h2⟩ := Returns.guard h1
    obtain ⟨rfl, rfl⟩ := Returns.pure h2
    exact ⟨rfl, hc, by simpa using ha⟩
  · exact absurd h1 not_returns_fail

theorem activeBurnChannel_returns {id : ChannelId} {c : BurnChannel} (h : Returns (activeBurnChannel id) tx c tx') :
    tx' = tx ∧ burnChannelIn tx.lookup id = some c ∧ c.active = true := by
  unfold activeBurnChannel at h
  obtain ⟨r, t1, hr, h1⟩ := Returns.bind h
  obtain ⟨rfl, rfl⟩ := burnChannel_returns hr
  split at h1
  · rename_i c' hc
    obtain ⟨ha, h2⟩ := Returns.guard h1
    obtain ⟨rfl, rfl⟩ := Returns.pure h2
    exact ⟨rfl, hc, by simpa using ha⟩
  · exact absurd h1 not_returns_fail

theorem routeLegs_returns {e : Engine} {o : Oracle} {amount : Nat} {requester custodian : Address}
    {pairs : List (Leg × Route)} {legs : List LegTransfer}
    (h : Returns (routeLegs e o amount requester custodian pairs) tx legs tx') : tx' = tx := by
  induction pairs generalizing tx tx' legs with
  | nil => exact (Returns.pure h).2
  | cons p rest ih =>
    obtain ⟨leg, r⟩ := p
    unfold routeLegs at h
    obtain ⟨price, t1, hp, h1⟩ := Returns.bind h
    obtain rfl := Oracle.readPrice_returns (returns_mapFault.mp hp)
    obtain ⟨n, t2, hn, h2⟩ := Returns.bind h1
    obtain ⟨-, rfl⟩ := Returns.lift hn
    obtain ⟨x, t3, hx, h3⟩ := Returns.bind h2
    obtain ⟨rfl, -⟩ := requireAccount_returns hx
    obtain ⟨y, t4, hy, h4⟩ := Returns.bind h3
    obtain ⟨rfl, -⟩ := requireAccount_returns hy
    obtain ⟨ls, t5, hls, h5⟩ := Returns.bind h4
    rw [(Returns.pure h5).2, ih hls]

theorem transferLegs_chain {requester : Address} {legs : List LegTransfer} {u : Unit}
    (h : Returns (transferLegs requester legs) tx u tx') :
    Relation.ReflTransGen (fun t t' => ∃ src dst amount, Returns (Bank.transfer requester src dst amount) t () t')
      tx tx' := by
  induction legs generalizing tx with
  | nil =>
    obtain ⟨-, rfl⟩ := Returns.pure h
    exact .refl
  | cons t rest ih =>
    unfold transferLegs at h
    obtain ⟨t1, h1, h2⟩ := Returns.seq h
    exact .head ⟨_, _, _, bankStep_returns.mp h1⟩ (ih h2)

theorem transferLegs_stages {requester : Address} {legs : List LegTransfer} {u : Unit}
    (h : Returns (transferLegs requester legs) tx u tx') : tx.Stages (fun k => ∃ j, k = accountKey j) tx' := by
  have hc := transferLegs_chain h
  clear h
  induction hc with
  | refl => exact .refl
  | tail _ ht ih =>
    obtain ⟨src, dst, amount, ht⟩ := ht
    exact ih.trans (transfer_stages ht)

/-! ## The operations -/

section

theorem createAppConfig_returns {signer : Address} {r : AppConfig × List Event}
    (h : Returns (createAppConfig signer) tx r tx') :
    appConfigIn tx.lookup = none ∧
      tx' = tx.restaged appConfigKey (some (Rlp.encode (appConfigValue ⟨defaultRollingHours, signer⟩))) := by
  unfold createAppConfig at h
  obtain ⟨-, h1⟩ := Returns.guard h
  obtain ⟨x, t1, hx, h2⟩ := Returns.bind h1
  obtain ⟨rfl, rfl⟩ := appConfig_returns hx
  obtain ⟨hnone, h3⟩ := Returns.guard h2
  obtain ⟨t2, h4, h5⟩ := Returns.seq h3
  obtain ⟨-, rfl⟩ := Returns.pure h5
  exact ⟨by simpa using hnone, putAppConfig_returns h4⟩

theorem setAppConfig_returns {hours : Nat} {r : AppConfig × List Event}
    (h : Returns (setAppConfig hours) tx r tx') :
    ∃ c : AppConfig, c.rollingPeriodHours = hours ∧
      tx' = tx.restaged appConfigKey (some (Rlp.encode (appConfigValue c))) := by
  unfold setAppConfig at h
  obtain ⟨-, h1⟩ := Returns.guard h
  obtain ⟨c, t1, hc, h2⟩ := Returns.bind h1
  obtain ⟨rfl, -⟩ := requireAppConfig_returns hc
  obtain ⟨t2, h3, h4⟩ := Returns.seq h2
  obtain ⟨-, rfl⟩ := Returns.pure h4
  exact ⟨_, rfl, putAppConfig_returns h3⟩

/-- Creating a mint channel stores an inactive, empty channel at the
derived identifier of the trimmed path, which held none. -/
theorem createMintChannel_returns {path : String} {capacity : Nat} {r : MintChannel × List Event}
    (h : Returns (createMintChannel path capacity) tx r tx') :
    ∃ (cfg : AppConfig) (p : String), appConfigIn tx.lookup = some cfg ∧ checkPath path = .ok p ∧
      mintChannelIn tx.lookup (ChannelId.derive .mint p) = none ∧
      Returns (putMintChannel
        { id := ChannelId.derive .mint p, path := p, capacity := if capacity = 0 then defaultCapacity else capacity })
        tx () tx' ∧
      r.1 = { id := ChannelId.derive .mint p, path := p, capacity := if capacity = 0 then defaultCapacity else capacity } := by
  unfold createMintChannel at h
  obtain ⟨p, t1, hl, h1⟩ := Returns.bind h
  obtain ⟨hp, rfl⟩ := Returns.lift hl
  obtain ⟨c, t2, hc, h2⟩ := Returns.bind h1
  obtain ⟨rfl, hcfg⟩ := requireAppConfig_returns hc
  obtain ⟨x, t3, hx, h3⟩ := Returns.bind h2
  obtain ⟨rfl, rfl⟩ := mintChannel_returns hx
  obtain ⟨hnone, h4⟩ := Returns.guard h3
  obtain ⟨t4, h5, h6⟩ := Returns.seq h4
  obtain ⟨rfl, rfl⟩ := Returns.pure h6
  exact ⟨c, p, hcfg, hp, by simpa using hnone, h5, rfl⟩

theorem createBurnChannel_returns {path : String} {r : BurnChannel × List Event}
    (h : Returns (createBurnChannel path) tx r tx') :
    ∃ (cfg : AppConfig) (p : String), appConfigIn tx.lookup = some cfg ∧ checkPath path = .ok p ∧
      burnChannelIn tx.lookup (ChannelId.derive .burn p) = none ∧
      Returns (putBurnChannel { id := ChannelId.derive .burn p, path := p }) tx () tx' ∧
      r.1 = { id := ChannelId.derive .burn p, path := p } := by
  unfold createBurnChannel at h
  obtain ⟨p, t1, hl, h1⟩ := Returns.bind h
  obtain ⟨hp, rfl⟩ := Returns.lift hl
  obtain ⟨c, t2, hc, h2⟩ := Returns.bind h1
  obtain ⟨rfl, hcfg⟩ := requireAppConfig_returns hc
  obtain ⟨x, t3, hx, h3⟩ := Returns.bind h2
  obtain ⟨rfl, rfl⟩ := burnChannel_returns hx
  obtain ⟨hnone, h4⟩ := Returns.guard h3
  obtain ⟨t4, h5, h6⟩ := Returns.seq h4
  obtain ⟨rfl, rfl⟩ := Returns.pure h6
  exact ⟨c, p, hcfg, hp, by simpa using hnone, h5, rfl⟩

/-- Setting a mint channel checks the trimmed settings against the channel
found under the identifier and writes it back with those settings. -/
theorem setMintChannel_returns {now : Int} {id : ChannelId} {s : MintSettings} {r : MintChannel × List Event}
    (h : Returns (setMintChannel now id s) tx r tx') :
    ∃ cfg c basket, appConfigIn tx.lookup = some cfg ∧ mintChannelIn tx.lookup id = some c ∧
      basket = s.basket.map (fun l => { l with asset := Text.trim l.asset, priceFeed := Text.trim l.priceFeed }) ∧
      checkMintSettings { s with basket := basket } c.capacity = .ok () ∧
      checkCapsAgainst c.counters s.limits cfg.rollingPeriodHours now = .ok () ∧
      Returns (putMintChannel { c with
          active := s.active, basket := basket, feeBps := s.feeBps, minRequestAmount := s.limits.minRequestAmount
          counters := { c.counters with lifetimeCap := s.limits.lifetimeCap, periodCap := s.limits.periodCap } })
        tx () tx' := by
  unfold setMintChannel at h
  obtain ⟨cfg, t1, hcfg, h1⟩ := Returns.bind h
  obtain ⟨rfl, hcfg⟩ := requireAppConfig_returns hcfg
  obtain ⟨x, t2, hx, h2⟩ := Returns.bind h1
  obtain ⟨rfl, hc⟩ := mintChannel_returns hx
  cases x with
  | none => exact absurd h2 not_returns_fail
  | some c =>
    obtain ⟨t3, hl, h3⟩ := Returns.seq h2
    obtain ⟨hset, rfl⟩ := Returns.lift hl
    obtain ⟨t4, hl, h4⟩ := Returns.seq h3
    obtain ⟨hcaps, rfl⟩ := Returns.lift hl
    obtain ⟨t5, hput, h5⟩ := Returns.seq h4
    obtain ⟨-, rfl⟩ := Returns.pure h5
    exact ⟨cfg, c, _, hcfg, hc.symm, rfl, hset, hcaps, hput⟩

theorem setBurnChannel_returns {now : Int} {id : ChannelId} {s : BurnSettings} {r : BurnChannel × List Event}
    (h : Returns (setBurnChannel now id s) tx r tx') :
    ∃ cfg c, appConfigIn tx.lookup = some cfg ∧ burnChannelIn tx.lookup id = some c ∧
      checkBurnSettings { s with outputAsset := Text.trim s.outputAsset, outputFeed := Text.trim s.outputFeed } =
        .ok () ∧
      checkCapsAgainst c.counters s.limits cfg.rollingPeriodHours now = .ok () ∧
      Returns (putBurnChannel { c with
          active := s.active, outputAsset := Text.trim s.outputAsset, outputDecimals := s.outputDecimals
          outputFeed := Text.trim s.outputFeed, feeBps := s.feeBps, minRequestAmount := s.limits.minRequestAmount
          counters := { c.counters with lifetimeCap := s.limits.lifetimeCap, periodCap := s.limits.periodCap } })
        tx () tx' := by
  unfold setBurnChannel at h
  obtain ⟨cfg, t1, hcfg, h1⟩ := Returns.bind h
  obtain ⟨rfl, hcfg⟩ := requireAppConfig_returns hcfg
  obtain ⟨x, t2, hx, h2⟩ := Returns.bind h1
  obtain ⟨rfl, hc⟩ := burnChannel_returns hx
  cases x with
  | none => exact absurd h2 not_returns_fail
  | some c =>
    obtain ⟨t3, hl, h3⟩ := Returns.seq h2
    obtain ⟨hset, rfl⟩ := Returns.lift hl
    obtain ⟨t4, hl, h4⟩ := Returns.seq h3
    obtain ⟨hcaps, rfl⟩ := Returns.lift hl
    obtain ⟨t5, hput, h5⟩ := Returns.seq h4
    obtain ⟨-, rfl⟩ := Returns.pure h5
    exact ⟨cfg, c, hcfg, hc.symm, hset, hcaps, hput⟩

/-- A mint that returns moved its legs, issued the payout and wrote its channel
back with the counters advanced. -/
theorem mint_returns {e : Engine} {ctx : Context} {req : MintRequest} {r : MintReceipt × List Event}
    (h : Returns (mint e ctx req) tx r tx') :
    ∃ cfg : AppConfig, ∃ c rcp fee payout counters reset legs t1 t2, appConfigIn tx.lookup = some cfg ∧
      mintChannelIn tx.lookup req.channel = some c ∧ c.active = true ∧ c.basket ≠ [] ∧
      (snapshot c.counters cfg.rollingPeriodHours ctx.now).checkCaps c.counters req.amount = .ok () ∧
      accountIn tx.lookup (Text.trim req.recipient) = some rcp ∧ rcp.asset = e.stableAsset ∧
      splitFee req.amount c.feeBps = .ok (fee, payout) ∧ c.counters.accumulatedFee + fee < Amount.bound ∧
      Returns (transferLegs req.requester legs) tx () t1 ∧
      (snapshot c.counters cfg.rollingPeriodHours ctx.now).apply c.counters req.amount = .ok (counters, reset) ∧
      Returns (Bank.mintTo cfg.custodialSigner req.recipient payout) t1 () t2 ∧
      Returns (putMintChannel { c with counters := { counters with
        accumulatedFee := c.counters.accumulatedFee + fee } }) t2 () tx' ∧
      r.1 = ⟨ctx.fresh, req.channel, req.requester, req.recipient, req.amount, fee, payout, legs, reset, ctx.now⟩ := by
  unfold mint at h
  obtain ⟨cfg, t1, hl, h1⟩ := Returns.bind h
  obtain ⟨rfl, hcfg⟩ := requireAppConfig_returns hl
  obtain ⟨c, t2, hl, h2⟩ := Returns.bind h1
  obtain ⟨rfl, hc, hact⟩ := activeMintChannel_returns hl
  obtain ⟨t3, hl, h3⟩ := Returns.seq h2
  obtain ⟨-, rfl⟩ := Returns.lift hl
  obtain ⟨hne, h4⟩ := Returns.guard h3
  obtain ⟨routes, t4, hl, h5⟩ := Returns.bind h4
  obtain ⟨-, rfl⟩ := Returns.lift hl
  obtain ⟨t5, hl, h6⟩ := Returns.seq h5
  obtain ⟨hcaps, rfl⟩ := Returns.lift hl
  obtain ⟨legs, t6, hl, h7⟩ := Returns.bind h6
  obtain rfl := routeLegs_returns hl
  obtain ⟨rcp, t7, hl, h8⟩ := Returns.bind h7
  obtain ⟨rfl, hrcp, hasset, -⟩ := requireAccount_returns hl
  obtain ⟨⟨fee, payout⟩, t8, hl, h9⟩ := Returns.bind h8
  obtain ⟨hsplit, rfl⟩ := Returns.lift hl
  obtain ⟨acc, t9, hl, h10⟩ := Returns.bind h9
  obtain ⟨hacc, rfl⟩ := Returns.lift hl
  obtain ⟨hfee, rfl⟩ := Amount.checkedAdd_eq_ok.mp hacc
  obtain ⟨t10, hxfer, h11⟩ := Returns.seq h10
  obtain ⟨⟨counters, reset⟩, t11, hl, h12⟩ := Returns.bind h11
  obtain ⟨happly, rfl⟩ := Returns.lift hl
  obtain ⟨t12, hmint, h13⟩ := Returns.seq h12
  obtain ⟨t13, hput, h14⟩ := Returns.seq h13
  obtain ⟨rfl, rfl⟩ := Returns.pure h14
  exact ⟨cfg, c, rcp, fee, payout, counters, reset, legs, _, _, hcfg, hc, hact, by simpa using hne, hcaps, hrcp,
    hasset, hsplit, hfee, hxfer, happly, bankStep_returns.mp hmint, hput, rfl⟩

/-- A burn that returns collected and burned its cost, paid the output out and
wrote its channel back with the counters advanced. -/
theorem burn_returns {e : Engine} {ctx : Context} {req : BurnRequest} {r : BurnReceipt × List Event}
    (h : Returns (burn e ctx req) tx r tx') :
    ∃ cfg : AppConfig, ∃ c cust cost fee payout counters reset price t1 t2 t3, appConfigIn tx.lookup = some cfg ∧
      burnChannelIn tx.lookup req.channel = some c ∧ c.active = true ∧
      accountIn tx.lookup (Text.trim req.route.stableCustody) = some cust ∧ cust.asset = e.stableAsset ∧
      (snapshot c.counters cfg.rollingPeriodHours ctx.now).checkCaps c.counters cost = .ok () ∧
      splitFee req.amount c.feeBps = .ok (fee, payout) ∧ c.counters.accumulatedFee + fee < Amount.bound ∧
      Returns (Bank.transfer req.requester req.route.stableSource req.route.stableCustody cost) tx () t1 ∧
      Returns (Bank.burn cfg.custodialSigner req.route.stableCustody cost) t1 () t2 ∧
      (snapshot c.counters cfg.rollingPeriodHours ctx.now).apply c.counters cost = .ok (counters, reset) ∧
      Returns (Bank.transfer cfg.custodialSigner req.route.outputSource req.route.outputDestination payout) t2 () t3 ∧
      Returns (putBurnChannel { c with counters := { counters with
        accumulatedFee := c.counters.accumulatedFee + fee } }) t3 () tx' ∧
      r.1 = ⟨ctx.fresh, req.channel, req.requester, c.outputAsset, req.amount, cost, fee, payout, price, reset,
        ctx.now⟩ := by
  unfold burn at h
  obtain ⟨cfg, t1, hl, h1⟩ := Returns.bind h
  obtain ⟨rfl, hcfg⟩ := requireAppConfig_returns hl
  obtain ⟨c, t2, hl, h2⟩ := Returns.bind h1
  obtain ⟨rfl, hc, hact⟩ := activeBurnChannel_returns hl
  obtain ⟨t3, hl, h3⟩ := Returns.seq h2
  obtain ⟨-, rfl⟩ := Returns.lift hl
  obtain ⟨x, t4, hl, h4⟩ := Returns.bind h3
  obtain ⟨rfl, -⟩ := requireAccount_returns hl
  obtain ⟨cust, t5, hl, h5⟩ := Returns.bind h4
  obtain ⟨rfl, hcust, hasset, -⟩ := requireAccount_returns hl
  obtain ⟨y, t6, hl, h6⟩ := Returns.bind h5
  obtain ⟨rfl, -⟩ := requireAccount_returns hl
  obtain ⟨z, t7, hl, h7⟩ := Returns.bind h6
  obtain ⟨rfl, -⟩ := requireAccount_returns hl
  obtain ⟨price, t8, hl, h8⟩ := Returns.bind h7
  obtain rfl := Oracle.readPrice_returns hl
  obtain ⟨cost, t9, hl, h9⟩ := Returns.bind h8
  obtain ⟨-, rfl⟩ := Returns.lift hl
  obtain ⟨t10, hl, h10⟩ := Returns.seq h9
  obtain ⟨hcaps, rfl⟩ := Returns.lift hl
  obtain ⟨⟨fee, payout⟩, t11, hl, h11⟩ := Returns.bind h10
  obtain ⟨hsplit, rfl⟩ := Returns.lift hl
  obtain ⟨acc, t12, hl, h12⟩ := Returns.bind h11
  obtain ⟨hacc, rfl⟩ := Returns.lift hl
  obtain ⟨hfee, rfl⟩ := Amount.checkedAdd_eq_ok.mp hacc
  obtain ⟨t13, hcollect, h13⟩ := Returns.seq h12
  obtain ⟨t14, hburn, h14⟩ := Returns.seq h13
  obtain ⟨⟨counters, reset⟩, t15, hl, h15⟩ := Returns.bind h14
  obtain ⟨happly, rfl⟩ := Returns.lift hl
  obtain ⟨t16, hpay, h16⟩ := Returns.seq h15
  obtain ⟨t17, hput, h17⟩ := Returns.seq h16
  obtain ⟨rfl, rfl⟩ := Returns.pure h17
  exact ⟨cfg, c, cust, cost, fee, payout, counters, reset, price, _, _, _, hcfg, hc, hact, hcust, hasset, hcaps,
    hsplit, hfee, bankStep_returns.mp hcollect, bankStep_returns.mp hburn, happly, bankStep_returns.mp hpay, hput,
    rfl⟩

theorem withdrawFee_returns {source destination : String} {amount : Nat} {r : Withdrawal × List Event}
    (h : Returns (withdrawFee source destination amount) tx r tx') :
    ∃ signer src, Returns (Bank.transfer signer src destination amount) tx () tx' := by
  unfold withdrawFee at h
  obtain ⟨-, h1⟩ := Returns.guard h
  obtain ⟨cfg, t1, hl, h2⟩ := Returns.bind h1
  obtain ⟨rfl, -⟩ := requireAppConfig_returns hl
  obtain ⟨src, t2, hl, h3⟩ := Returns.bind h2
  obtain ⟨rfl, -⟩ := account_returns (bankStep_returns.mp hl)
  obtain ⟨-, h4⟩ := Returns.guard h3
  obtain ⟨d, t3, hl, h5⟩ := Returns.bind h4
  obtain ⟨rfl, -⟩ := requireAccount_returns hl
  obtain ⟨t4, hx, h6⟩ := Returns.seq h5
  obtain ⟨-, rfl⟩ := Returns.pure h6
  exact ⟨_, _, bankStep_returns.mp hx⟩

theorem releaseAssetCustody_returns {asset : String} {next : Address} {r : Unit × List Event}
    (h : Returns (releaseAssetCustody asset next) tx r tx') :
    ∃ signer, Returns (Bank.setMintAuthority signer (Text.trim asset) next) tx () tx' := by
  unfold releaseAssetCustody at h
  obtain ⟨-, h1⟩ := Returns.guard h
  obtain ⟨-, h2⟩ := Returns.guard h1
  obtain ⟨cfg, t1, hl, h3⟩ := Returns.bind h2
  obtain ⟨rfl, -⟩ := requireAppConfig_returns hl
  obtain ⟨t2, hx, h4⟩ := Returns.seq h3
  obtain ⟨-, rfl⟩ := Returns.pure h4
  exact ⟨_, bankStep_returns.mp hx⟩

/-- Creating an asset checks its decimals and is the bank's creation with
the authority given or the custodial signer. -/
theorem createAsset_returns {id : String} {decimals : Nat} {authority : Address} {r : Asset × List Event}
    (h : Returns (createAsset id decimals authority) tx r tx') :
    ∃ signer, checkDecimals decimals = .ok () ∧ Returns (Bank.createAsset id decimals signer) tx r.1 tx' := by
  unfold createAsset at h
  obtain ⟨t1, hl, h1⟩ := Returns.seq h
  obtain ⟨hdec, rfl⟩ := Returns.lift hl
  -- the authority is read from the settings or taken as given; either way nothing is written
  split at h1
  · obtain ⟨cfg, t2, hc, h2⟩ := Returns.bind h1
    obtain ⟨rfl, -⟩ := requireAppConfig_returns hc
    obtain ⟨signer, t3, hp, h3⟩ := Returns.bind h2
    obtain ⟨rfl, rfl⟩ := Returns.pure hp
    obtain ⟨a, t4, hl, h4⟩ := Returns.bind h3
    obtain ⟨rfl, rfl⟩ := Returns.pure h4
    exact ⟨_, hdec, bankStep_returns.mp hl⟩
  · obtain ⟨signer, t3, hp, h3⟩ := Returns.bind h1
    obtain ⟨rfl, rfl⟩ := Returns.pure hp
    obtain ⟨a, t4, hl, h4⟩ := Returns.bind h3
    obtain ⟨rfl, rfl⟩ := Returns.pure h4
    exact ⟨_, hdec, bankStep_returns.mp hl⟩

theorem createFeed_returns {id description : String} {decimals : Nat} {r : PriceFeed × List Event}
    (h : Returns (createFeed id description decimals) tx r tx') :
    ∃ b, tx' = tx.restaged (Feed.key (Text.trim id)) (some b) := by
  unfold createFeed at h
  obtain ⟨f, t1, hl, h1⟩ := Returns.bind h
  obtain ⟨-, rfl⟩ := Returns.pure h1
  exact Feed.create_returns (returns_mapFault.mp hl)

theorem submitRound_returns {now answer : Int} {id : String} {r : Round × List Event}
    (h : Returns (submitRound now id answer) tx r tx') : ∃ i b, tx' = tx.restaged (Feed.key i) (some b) := by
  unfold submitRound at h
  obtain ⟨x, t1, hl, h1⟩ := Returns.bind h
  obtain ⟨-, rfl⟩ := Returns.pure h1
  exact Feed.submit_returns (returns_mapFault.mp hl)

theorem openAccount_returns {ctx : Context} {owner : Address} {id asset : String} {r : Account × List Event}
    (h : Returns (openAccount ctx owner id asset) tx r tx') :
    Returns (Bank.openAccount id owner asset ctx.fresh) tx r.1 tx' := by
  unfold openAccount at h
  obtain ⟨a, t1, hl, h1⟩ := Returns.bind h
  obtain ⟨rfl, rfl⟩ := Returns.pure h1
  exact bankStep_returns.mp hl

end

end Engine

end Issuance
