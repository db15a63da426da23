import Mathlib
import Issuance.Proofs.Channel.Checks
import Issuance.Proofs.Engine.Script
/-! # Every stored channel is valid

`Channel.Sound`: every channel found sits under its own identifier, reads
back as stored and is valid. Other writes miss channel records and every
channel write is storable and valid, so it holds on every reachable store. -/
namespace Issuance

open Store Txn Channel Engine

/-! ## Channels as they read back -/

theorem storedAnchor_signedOf_le (n : Nat) : storedAnchor (signedOf n) ≤ n := by
  unfold storedAnchor signedOf
  have h63 : Nat.pow 2 63 = 2 ^ 63 := rfl
  have h64 : Int.pow 2 64 = 2 ^ 64 := rfl
  rw [h63, h64]
  split <;> split <;> omega

theorem storedAnchor_lt_of_lt {now : Int} (h : now < 2 ^ 63) : storedAnchor now < Amount.bound := by
  rw [Amount.bound_eq]
  unfold storedAnchor
  split <;> omega

theorem Counters.Storable.reread {c : Counters} (h : c.Storable) : c.reread.Storable :=
  ⟨h.lifetimeIssued, h.lifetimeCap, h.periodIssued, h.periodCap,
    lt_of_le_of_lt (storedAnchor_signedOf_le _) h.periodAnchor, h.accumulatedFee⟩

theorem Counters.storable_default : ({} : Counters).Storable := by
  refine ⟨?_, ?_, ?_, ?_, ?_, ?_⟩ <;> simp [Amount.bound_eq, storedAnchor]

theorem MintChannel.Storable.reread {c : MintChannel} (h : c.Storable) :
    ({ c with counters := c.counters.reread } : MintChannel).Storable :=
  { h with counters := h.counters.reread }

theorem BurnChannel.Storable.reread {c : BurnChannel} (h : c.Storable) :
    ({ c with counters := c.counters.reread } : BurnChannel).Storable :=
  { h with counters := h.counters.reread }

theorem MintChannel.Valid.reread {c : MintChannel} (h : c.Valid) :
    ({ c with counters := c.counters.reread } : MintChannel).Valid :=
  { h with issued_le := by simpa using h.issued_le, fee_issued := by simpa using h.fee_issued }

theorem BurnChannel.Valid.reread {c : BurnChannel} (h : c.Valid) :
    ({ c with counters := c.counters.reread } : BurnChannel).Valid :=
  { h with issued_le := by simpa using h.issued_le }

/-- The counters a conversion writes back, advanced by an amount the caps
admit and with a fee added to the kept fee, stay storable and within the
lifetime cap. -/
theorem Counters.Storable.convert {c c' : Counters} {hours : Nat} {now : Int} {x fee : Nat} {reset : Bool}
    (hst : c.Storable) (hnow : now < 2 ^ 63) (hcaps : (snapshot c hours now).checkCaps c x = .ok ())
    (happ : (snapshot c hours now).apply c x = .ok (c', reset)) (hfee : c.accumulatedFee + fee < Amount.bound) :
    ({ c' with accumulatedFee := c.accumulatedFee + fee } : Counters).Storable ∧
      c'.lifetimeIssued = c.lifetimeIssued + x ∧ c.lifetimeIssued + x ≤ c.lifetimeCap ∧
      c'.lifetimeCap = c.lifetimeCap := by
  obtain ⟨hp, -, hl, hlc⟩ := checkCaps_eq_ok.mp hcaps
  obtain ⟨hli, hpi, hlcap, hpcap, -, hanchor⟩ := Snapshot.apply_eq_ok happ
  refine ⟨⟨by simp only [hli]; exact hl, by simp only [hlcap]; exact hst.lifetimeCap,
    by simp only [hpi]; exact hp, by simp only [hpcap]; exact hst.periodCap, ?_, hfee⟩, hli, hlc, hlcap⟩
  rcases hanchor with ha | ha <;> simp only [ha]
  · exact hst.periodAnchor
  · exact storedAnchor_lt_of_lt hnow

theorem Channel.BasketValid.widths {basket : List Leg} {l : Leg} (hv : Channel.BasketValid basket) (hl : l ∈ basket) :
    l.decimals < 2 ^ 16 ∧ l.weightBps < 2 ^ 16 := by
  have hd : l.decimals ≤ 19 := hv.decimals l hl
  have hw : l.weightBps ≤ 10000 := by
    have := List.le_sum_of_mem (List.mem_map_of_mem (f := (·.weightBps)) hl)
    rw [hv.weights] at this
    exact this
  omega

namespace Channel

/-- What the channels of a view keep: each sits under its own identifier,
reads back as stored, and is valid. -/
structure Sound (L : Bytes → Option Bytes) : Prop where
  mint : ∀ id c, mintChannelIn L id = some c → c.id = id ∧ c.Storable ∧ c.Valid
  burn : ∀ id c, burnChannelIn L id = some c → c.id = id ∧ c.Storable ∧ c.Valid

variable {tx tx' : Tx}

theorem Sound.empty : Sound ({} : Store).get? := by
  have hnone : ∀ k, ({} : Store).get? k = none := fun k => rfl
  refine ⟨fun i c h => ?_, fun i c h => ?_⟩ <;> simp [mintChannelIn, burnChannelIn, recordAt, hnone] at h

theorem Sound.stages {P : Bytes → Prop} (hs : Sound tx.lookup) (h : tx.Stages P tx')
    (hP : ∀ k, P k → ∀ kind id, k ≠ recordKey kind id) : Sound tx'.lookup := by
  refine ⟨fun i c hc => hs.mint i c ?_, fun i c hc => hs.burn i c ?_⟩
  · rwa [mintChannelIn, recordAt_of_stages h fun hk => hP _ hk .mint i rfl] at hc
  · rwa [burnChannelIn, recordAt_of_stages h fun hk => hP _ hk .burn i rfl] at hc

theorem Sound.bank {P : Bytes → Prop} (hs : Sound tx.lookup) (h : tx.Stages P tx') (hP : ∀ k, P k → Bank.IsKey k) :
    Sound tx'.lookup :=
  hs.stages h fun k hk kind id he => by
    rcases hP k hk with ⟨i, rfl⟩ | ⟨j, rfl⟩ <;> simp at he

theorem Sound.restaged {k : Bytes} (hs : Sound tx.lookup) (hk : ∀ kind id, k ≠ recordKey kind id)
    (v : Option Bytes) : Sound (tx.restaged k v).lookup :=
  hs.stages (.restaged rfl v) fun _ h => h ▸ hk

theorem Sound.putMintChannel {c : MintChannel} {u : Unit} (hs : Sound tx.lookup) (hst : c.Storable)
    (hv : c.Valid) (h : Returns (Channel.putMintChannel c) tx u tx') : Sound tx'.lookup := by
  refine ⟨fun i c' hc => ?_, fun i c' hc => ?_⟩
  · rw [mintChannelIn_putMintChannel hst h] at hc
    split at hc
    · rename_i hi
      cases hc
      exact ⟨hi.symm, hst.reread, hv.reread⟩
    · exact hs.mint i c' hc
  · rw [burnChannelIn, recordAt_of_stages (putMintChannel_stages h) (by rintro (h | h) <;> simp at h)] at hc
    exact hs.burn i c' hc

theorem Sound.putBurnChannel {c : BurnChannel} {u : Unit} (hs : Sound tx.lookup) (hst : c.Storable)
    (hv : c.Valid) (h : Returns (Channel.putBurnChannel c) tx u tx') : Sound tx'.lookup := by
  refine ⟨fun i c' hc => ?_, fun i c' hc => ?_⟩
  · rw [mintChannelIn, recordAt_of_stages (putBurnChannel_stages h) (by rintro (h | h) <;> simp at h)] at hc
    exact hs.mint i c' hc
  · rw [burnChannelIn_putBurnChannel hst h] at hc
    split at hc
    · rename_i hi
      cases hc
      exact ⟨hi.symm, hst.reread, hv.reread⟩
    · exact hs.burn i c' hc

end Channel

/-! ## What each channel operation writes -/

namespace Engine

section
variable {tx tx' : Tx} {e : Engine} {ctx : Context}

/-- Creating a mint channel writes a storable, valid channel that has
counted nothing, under an identifier that held none. -/
theorem createMintChannel_writes {path : String} {capacity : Nat} {r : MintChannel × List Event}
    (hp : Text.Short path) (hcap : capacity < 2 ^ 16) (h : Returns (createMintChannel path capacity) tx r tx') :
    ∃ (cfg : AppConfig) (c : MintChannel), appConfigIn tx.lookup = some cfg ∧ c.Storable ∧ c.Valid ∧
      c.counters = {} ∧ mintChannelIn tx.lookup c.id = none ∧ Returns (putMintChannel c) tx () tx' ∧ r.1 = c := by
  obtain ⟨cfg, p, hcfg, hpath, hnone, h1, hr⟩ := createMintChannel_returns h
  obtain ⟨rfl, -⟩ := checkPath_eq_ok.mp hpath
  have hcap' : (if capacity = 0 then defaultCapacity else capacity) < 2 ^ 16 := by
    unfold defaultCapacity
    split <;> omega
  refine ⟨cfg, _, hcfg, ?_, ?_, rfl, hnone, h1, hr⟩
  · exact ⟨hp.trim, hcap', by simp, by simp, by simp, by simp [Amount.bound_eq], Counters.storable_default⟩
  · exact ⟨by simp, by simp [maxFeeBps], .inl rfl, by simp, by simp, by simp⟩

theorem createBurnChannel_writes {path : String} {r : BurnChannel × List Event} (hp : Text.Short path)
    (h : Returns (createBurnChannel path) tx r tx') :
    ∃ (cfg : AppConfig) (c : BurnChannel), appConfigIn tx.lookup = some cfg ∧ c.Storable ∧ c.Valid ∧
      c.counters = {} ∧ burnChannelIn tx.lookup c.id = none ∧ Returns (putBurnChannel c) tx () tx' ∧ r.1 = c := by
  obtain ⟨cfg, p, hcfg, hpath, hnone, h1, hr⟩ := createBurnChannel_returns h
  obtain ⟨rfl, -⟩ := checkPath_eq_ok.mp hpath
  have hempty : Text.Short "" := by simp [Text.Short, Bytes.ofString_eq]
  refine ⟨cfg, _, hcfg, ?_, ?_, rfl, hnone, h1, hr⟩
  · exact ⟨hp.trim, hempty, by simp, hempty, by simp, by simp [Amount.bound_eq], Counters.storable_default⟩
  · exact ⟨by simp [maxFeeBps], by simp [Amount.maxDecimals], by simp, by simp⟩

theorem setMintChannel_writes_of {now : Int} {id : ChannelId} {s : MintSettings} {r : MintChannel × List Event}
    (hsound : ∀ c, mintChannelIn tx.lookup id = some c → c.id = id ∧ c.Storable ∧ c.Valid)
    (ho : (Op.setMintChannel id s).Typed) (h : Returns (setMintChannel now id s) tx r tx') :
    ∃ (cfg : AppConfig) (c c' : MintChannel), appConfigIn tx.lookup = some cfg ∧ mintChannelIn tx.lookup c.id = some c ∧ c.id = id ∧
      c'.id = c.id ∧ c'.Storable ∧ c'.Valid ∧ checkCapsAgainst c.counters s.limits cfg.rollingPeriodHours now = .ok () ∧
      c'.counters = { c.counters with lifetimeCap := s.limits.lifetimeCap, periodCap := s.limits.periodCap } ∧
      Returns (putMintChannel c') tx () tx' ∧
      c' = { c with active := s.active
                    basket := s.basket.map fun l => { l with asset := Text.trim l.asset, priceFeed := Text.trim l.priceFeed }
                    feeBps := s.feeBps
                    minRequestAmount := s.limits.minRequestAmount
                    counters := { c.counters with lifetimeCap := s.limits.lifetimeCap, periodCap := s.limits.periodCap } } := by
  obtain ⟨cfg, c, basket, hcfg, hc, rfl, hset, hcaps, h1⟩ := setMintChannel_returns h
  obtain ⟨rfl, hst, hv⟩ := hsound c hc
  have ht : ∀ l ∈ s.basket.map (fun l => { l with asset := Text.trim l.asset, priceFeed := Text.trim l.priceFeed }),
      Text.trim l.asset = l.asset := by simp
  obtain ⟨hfee, hact, hlen, hbasket⟩ := (checkMintSettings_eq_ok ht).mp hset
  -- the trimmed legs are short, and a valid basket bounds their numbers
  have hleg : ∀ l ∈ s.basket.map (fun l => { l with asset := Text.trim l.asset, priceFeed := Text.trim l.priceFeed }),
      l.Storable := by
    intro l hl
    have hw := (hbasket.resolve_left (List.ne_nil_of_mem hl)).widths hl
    obtain ⟨l0, hl0, rfl⟩ := List.mem_map.mp hl
    exact ⟨(ho.1 l0 hl0).1.trim, hw.1, hw.2, (ho.1 l0 hl0).2.trim⟩
  have hcap := hst.capacity
  refine ⟨cfg, c, _, hcfg, hc, rfl, ?_, ?_, ?_, hcaps, ?_, h1, rfl⟩
  · rfl
  · exact ⟨hst.path, hcap, by simp only at hlen ⊢; omega, hleg, by simp only [maxFeeBps] at hfee ⊢; omega,
      ho.2.2.2, { hst.counters with lifetimeCap := ho.2.1, periodCap := ho.2.2.1 }⟩
  · exact ⟨hlen, hfee, hbasket, hact, lifetimeIssued_le_of_checkCapsAgainst hcaps, hv.fee_issued⟩
  · rfl

theorem setMintChannel_writes {now : Int} {id : ChannelId} {s : MintSettings} {r : MintChannel × List Event}
    (hs : Channel.Sound tx.lookup) (ho : (Op.setMintChannel id s).Typed) (h : Returns (setMintChannel now id s) tx r tx') :
    ∃ (cfg : AppConfig) (c c' : MintChannel), appConfigIn tx.lookup = some cfg ∧ mintChannelIn tx.lookup c.id = some c ∧
      c'.id = c.id ∧ c'.Storable ∧ c'.Valid ∧ checkCapsAgainst c.counters s.limits cfg.rollingPeriodHours now = .ok () ∧
      c'.counters = { c.counters with lifetimeCap := s.limits.lifetimeCap, periodCap := s.limits.periodCap } ∧
      Returns (putMintChannel c') tx () tx' := by
  obtain ⟨cfg, c, c', hcfg, hc, -, hid, hst, hv, hcaps, hcounters, hput, -⟩ :=
    setMintChannel_writes_of (fun c hc => hs.mint _ c hc) ho h
  exact ⟨cfg, c, c', hcfg, hc, hid, hst, hv, hcaps, hcounters, hput⟩

theorem setBurnChannel_writes_of {now : Int} {id : ChannelId} {s : BurnSettings} {r : BurnChannel × List Event}
    (hsound : ∀ c, burnChannelIn tx.lookup id = some c → c.id = id ∧ c.Storable ∧ c.Valid)
    (ho : (Op.setBurnChannel id s).Typed) (h : Returns (setBurnChannel now id s) tx r tx') :
    ∃ (cfg : AppConfig) (c c' : BurnChannel), appConfigIn tx.lookup = some cfg ∧ burnChannelIn tx.lookup c.id = some c ∧ c.id = id ∧
      c'.id = c.id ∧ c'.Storable ∧ c'.Valid ∧ checkCapsAgainst c.counters s.limits cfg.rollingPeriodHours now = .ok () ∧
      c'.counters = { c.counters with lifetimeCap := s.limits.lifetimeCap, periodCap := s.limits.periodCap } ∧
      Returns (putBurnChannel c') tx () tx' ∧
      c' = { c with active := s.active
                    outputAsset := Text.trim s.outputAsset
                    outputDecimals := s.outputDecimals
                    outputFeed := Text.trim s.outputFeed
                    feeBps := s.feeBps
                    minRequestAmount := s.limits.minRequestAmount
                    counters := { c.counters with lifetimeCap := s.limits.lifetimeCap, periodCap := s.limits.periodCap } } := by
  obtain ⟨cfg, c, hcfg, hc, hset, hcaps, h1⟩ := setBurnChannel_returns h
  obtain ⟨rfl, hst, hv⟩ := hsound c hc
  obtain ⟨hfee, hdec, hact⟩ := checkBurnSettings_eq_ok.mp hset
  refine ⟨cfg, c, _, hcfg, hc, rfl, ?_, ?_, ?_, hcaps, ?_, h1, rfl⟩
  · rfl
  · exact ⟨hst.path, ho.1.trim, by simp only [Amount.maxDecimals] at hdec ⊢; omega, ho.2.1.trim,
      by simp only [maxFeeBps] at hfee ⊢; omega, ho.2.2.2.2,
      { hst.counters with lifetimeCap := ho.2.2.1, periodCap := ho.2.2.2.1 }⟩
  · exact ⟨hfee, hdec, fun ha => ⟨ne_empty_of_not_isBlankText (hact ha), Text.trim_trim _⟩,
      lifetimeIssued_le_of_checkCapsAgainst hcaps⟩
  · rfl

theorem setBurnChannel_writes {now : Int} {id : ChannelId} {s : BurnSettings} {r : BurnChannel × List Event}
    (hs : Channel.Sound tx.lookup) (ho : (Op.setBurnChannel id s).Typed) (h : Returns (setBurnChannel now id s) tx r tx') :
    ∃ (cfg : AppConfig) (c c' : BurnChannel), appConfigIn tx.lookup = some cfg ∧ burnChannelIn tx.lookup c.id = some c ∧
      c'.id = c.id ∧ c'.Storable ∧ c'.Valid ∧ checkCapsAgainst c.counters s.limits cfg.rollingPeriodHours now = .ok () ∧
      c'.counters = { c.counters with lifetimeCap := s.limits.lifetimeCap, periodCap := s.limits.periodCap } ∧
      Returns (putBurnChannel c') tx () tx' := by
  obtain ⟨cfg, c, c', hcfg, hc, -, hid, hst, hv, hcaps, hcounters, hput, -⟩ :=
    setBurnChannel_writes_of (fun c hc => hs.burn _ c hc) ho h
  exact ⟨cfg, c, c', hcfg, hc, hid, hst, hv, hcaps, hcounters, hput⟩

/-- A mint moves its legs, issues the payout, and rewrites its channel as a
storable, valid one counting the amount and the fee. -/
theorem mint_writes {req : MintRequest} {r : MintReceipt × List Event} (hs : Channel.Sound tx.lookup)
    (hctx : ctx.Typed) (h : Returns (mint e ctx req) tx r tx') :
    ∃ (c c' : MintChannel) (signer : Address) (rcp : Account) (fee payout : Nat) (legs : List LegTransfer) (t1 t2 : Tx),
      mintChannelIn tx.lookup c.id = some c ∧ c'.id = c.id ∧ c'.Storable ∧ c'.Valid ∧
      c'.counters.lifetimeIssued = c.counters.lifetimeIssued + req.amount ∧
      c'.counters.accumulatedFee = c.counters.accumulatedFee + fee ∧ fee + payout = req.amount ∧
      Bank.accountIn tx.lookup (Text.trim req.recipient) = some rcp ∧ rcp.asset = e.stableAsset ∧
      Returns (transferLegs req.requester legs) tx () t1 ∧ Returns (Bank.mintTo signer req.recipient payout) t1 () t2 ∧
      Returns (putMintChannel c') t2 () tx' := by
  obtain ⟨cfg, c, rcp, fee, payout, counters, reset, legs, t1, t2, -, hc, -, -, hcaps, hrcp, hasset, hsplit, hfee, h1,
    happ, h2, h3, -⟩ := mint_returns h
  obtain ⟨hid, hst, hv⟩ := hs.mint _ c hc
  rw [← hid] at hc
  obtain ⟨hcs, hli, hle, hcap⟩ := hst.counters.convert hctx.now hcaps happ hfee
  obtain ⟨hfeeq, hfle, rfl⟩ := splitFee_eq_ok hsplit
  -- the kept fee grows by at most a fifth of what is issued
  have hfifth : 5 * (req.amount * c.feeBps / Amount.basisPoints) ≤ req.amount := five_mul_fee_le hv.fee_le
  have hv' := hv.fee_issued
  refine ⟨c, { c with counters := { counters with accumulatedFee := c.counters.accumulatedFee + fee } },
    cfg.custodialSigner, rcp, fee, req.amount - fee, legs, t1, t2, hc, rfl, ?_, ?_, hli, rfl, by omega, hrcp, hasset,
    h1, h2, h3⟩
  · exact { hst with counters := hcs }
  · exact { hv with issued_le := by simp only [hli, hcap]; exact hle, fee_issued := by simp only [hli]; omega }

/-- A burn collects and retires its cost, pays the output out, and rewrites its
channel as a storable, valid one counting the cost. -/
theorem burn_writes {req : BurnRequest} {r : BurnReceipt × List Event} (hs : Channel.Sound tx.lookup)
    (hctx : ctx.Typed) (h : Returns (burn e ctx req) tx r tx') :
    ∃ (c c' : BurnChannel) (signer : Address) (cust : Account) (cost payout : Nat) (t1 t2 t3 : Tx),
      burnChannelIn tx.lookup c.id = some c ∧ c'.id = c.id ∧ c'.Storable ∧ c'.Valid ∧
      c'.counters.lifetimeIssued = c.counters.lifetimeIssued + cost ∧
      Bank.accountIn tx.lookup (Text.trim req.route.stableCustody) = some cust ∧ cust.asset = e.stableAsset ∧
      Returns (Bank.transfer req.requester req.route.stableSource req.route.stableCustody cost) tx () t1 ∧
      Returns (Bank.burn signer req.route.stableCustody cost) t1 () t2 ∧
      Returns (Bank.transfer signer req.route.outputSource req.route.outputDestination payout) t2 () t3 ∧
      Returns (putBurnChannel c') t3 () tx' := by
  obtain ⟨cfg, c, cust, cost, fee, payout, counters, reset, price, t1, t2, t3, -, hc, -, hcust, hasset, hcaps, -, hfee,
    h1, h2, happ, h3, h4, -⟩ := burn_returns h
  obtain ⟨hid, hst, hv⟩ := hs.burn _ c hc
  rw [← hid] at hc
  obtain ⟨hcs, hli, hle, hcap⟩ := hst.counters.convert hctx.now hcaps happ hfee
  refine ⟨c, { c with counters := { counters with accumulatedFee := c.counters.accumulatedFee + fee } },
    cfg.custodialSigner, cust, cost, payout, t1, t2, t3, hc, rfl, ?_, ?_, hli, hcust, hasset, h1, h2, h3, h4⟩
  · exact { hst with counters := hcs }
  · exact { hv with issued_le := by simp only [hli, hcap]; exact hle }

end

end Engine

namespace Channel

section
variable {tx tx' : Tx} {e : Engine} {ctx : Context}

theorem accounts_isKey {k : Bytes} : (∃ j, k = Bank.accountKey j) → Bank.IsKey k
  | ⟨j, hj⟩ => .inr ⟨j, hj⟩

theorem Sound.op {o : Op} {r : o.Result × List Event} (hs : Sound tx.lookup) (hctx : ctx.Typed) (ho : o.Typed)
    (h : Returns (o.txn e ctx) tx r tx') : Sound tx'.lookup := by
  cases o with
  | createAppConfig signer =>
    obtain ⟨-, rfl⟩ := createAppConfig_returns h
    exact hs.restaged (by simp) _
  | setAppConfig hours =>
    obtain ⟨c, -, rfl⟩ := setAppConfig_returns h
    exact hs.restaged (by simp) _
  | createAsset id decimals authority =>
    obtain ⟨signer, -, h1⟩ := Engine.createAsset_returns h
    exact hs.bank (Bank.createAsset_stages h1) fun _ hk => hk
  | createFeed id description decimals =>
    obtain ⟨b, rfl⟩ := createFeed_returns h
    exact hs.restaged (by simp) _
  | submitRound id answer =>
    obtain ⟨i, b, rfl⟩ := submitRound_returns h
    exact hs.restaged (by simp) _
  | openAccount owner id asset =>
    exact hs.bank (Bank.openAccount_stages (Engine.openAccount_returns h)) fun _ hk => hk
  | createMintChannel path capacity =>
    obtain ⟨cfg, c, -, hst, hv, -, -, h1, -⟩ := createMintChannel_writes ho.1 ho.2 h
    exact hs.putMintChannel hst hv h1
  | setMintChannel id s =>
    obtain ⟨cfg, c, c', -, -, -, hst, hv, -, -, h1⟩ := setMintChannel_writes hs ho h
    exact hs.putMintChannel hst hv h1
  | createBurnChannel path =>
    obtain ⟨cfg, c, -, hst, hv, -, -, h1, -⟩ := createBurnChannel_writes ho h
    exact hs.putBurnChannel hst hv h1
  | setBurnChannel id s =>
    obtain ⟨cfg, c, c', -, -, -, hst, hv, -, -, h1⟩ := setBurnChannel_writes hs ho h
    exact hs.putBurnChannel hst hv h1
  | mint req =>
    obtain ⟨c, c', signer, rcp, fee, payout, legs, t1, t2, -, -, hst, hv, -, -, -, -, -, h1, h2, h3⟩ :=
      mint_writes hs hctx h
    -- the legs and the issue write only the bank's records
    have hs2 := (hs.bank (transferLegs_stages h1) fun _ => accounts_isKey).bank (Bank.mintTo_stages h2) fun _ hk => hk
    exact hs2.putMintChannel hst hv h3
  | burn req =>
    obtain ⟨c, c', signer, cust, cost, payout, t1, t2, t3, -, -, hst, hv, -, -, -, h1, h2, h3, h4⟩ :=
      burn_writes hs hctx h
    -- the collection, the burn and the payout write only the bank's records
    have hs3 := ((hs.bank (Bank.transfer_stages h1) fun _ => accounts_isKey).bank (Bank.burn_stages h2)
      fun _ hk => hk).bank (Bank.transfer_stages h3) fun _ => accounts_isKey
    exact hs3.putBurnChannel hst hv h4
  | withdrawFee source destination amount =>
    obtain ⟨signer, src, h1⟩ := withdrawFee_returns h
    exact hs.bank (Bank.transfer_stages h1) fun _ => accounts_isKey
  | releaseAssetCustody asset next =>
    obtain ⟨signer, h1⟩ := releaseAssetCustody_returns h
    exact hs.bank (Bank.setMintAuthority_stages h1) fun _ hk => hk

theorem Sound.of_reachable {S : Store} (h : Reachable e S) : Sound S.get? :=
  h.views Sound.empty (fun _ _ _ _ _ hctx ho hs hm => hs.op hctx ho hm)
    (fun _ _ _ _ _ hs hm => hs.bank (BankCall.stages hm) fun _ hk => hk)

end

end Channel

namespace Engine

/-- On every store reachable through the engine's operations and the bank's
calls, every mint channel and every burn channel a reader finds is valid. -/
theorem reachable_channels_valid {e : Engine} {S : Store} (h : Reachable e S) :
    (∀ id c, mintChannelIn S.get? id = some c → c.Valid) ∧ ∀ id c, burnChannelIn S.get? id = some c → c.Valid := by
  have hs := Channel.Sound.of_reachable h
  exact ⟨fun id c hc => (hs.mint id c hc).2.2, fun id c hc => (hs.burn id c hc).2.2⟩

/-- The channels of the sample history are valid after its trade. -/
theorem channels_valid_after_trade :
    Reachable Sample.engine Sample.traded ∧
    (∀ id c, mintChannelIn Sample.traded.get? id = some c → c.Valid) ∧
      ∀ id c, burnChannelIn Sample.traded.get? id = some c → c.Valid :=
  ⟨Sample.traded_reachable, reachable_channels_valid Sample.traded_reachable⟩

end Engine

end Issuance
