import Mathlib
import Issuance.Proofs.Engine.Failures
import Issuance.Proofs.Engine.ChannelSound
import Issuance.Proofs.Engine.BankSound
import Issuance.Proofs.Feed.Scale
/-! # Where a conversion can overflow

On a reachable store a conversion or its quote fails with an arithmetic
overflow only where nothing bounds the figures: a price or scale quotient
beyond 64 bits, the supply a mint issues into, and a burn channel's kept
fee. Every other guard is dead there: scales have at most nineteen
decimals, prices are positive, fees are at most a fifth of the amount, the
caps are checked on the snapshot the counters then move by, and balances
stay within their asset's supply. -/
namespace Issuance

open Store Txn

namespace Fault

/-- A failure of another class than an arithmetic overflow. -/
def NoOverflow (f : Fault) : Prop := f.code ≠ .arithmeticOverflow

/-- `f` is an arithmetic overflow only of the kind `Q`. -/
def OverflowsOnly (Q : Fault → Prop) (f : Fault) : Prop := f.code = .arithmeticOverflow → Q f

/-- The failure of a quotient `⌊v * n / d⌋`, `d` positive, beyond 64 bits. -/
def QuotientOverflow (f : Fault) : Prop := ∃ v n d, d ≠ 0 ∧ Amount.mulDiv v n d = .error f

/-- The failure of issuing a mint's payout beyond what its asset can hold. -/
def SupplyOverflow (f : Fault) : Prop := ∃ a, f = within "issue stable" (accountFault (.supplyOverflow a))

theorem noOverflow_raise {c : Code} (hc : c ≠ .arithmeticOverflow) (d : String) : (raise c d).NoOverflow := hc

theorem Unclassed.noOverflow {f : Fault} (h : f.Unclassed) : f.NoOverflow := by
  unfold NoOverflow
  rw [h]
  decide

theorem NoOverflow.within {f : Fault} (h : f.NoOverflow) (s : String) : (within s f).NoOverflow := h

theorem NoOverflow.only {f : Fault} (h : f.NoOverflow) (Q : Fault → Prop) : f.OverflowsOnly Q :=
  fun he => absurd he h

theorem OverflowsOnly.mono {Q Q' : Fault → Prop} {f : Fault} (h : f.OverflowsOnly Q) (hQ : ∀ f, Q f → Q' f) :
    f.OverflowsOnly Q' :=
  fun he => hQ f (h he)

theorem ClassIn.within {f : Fault} {cs : List Code} (h : f.ClassIn cs) (s : String) : (within s f).ClassIn cs := h

theorem ClassIn.noOverflow {f : Fault} {cs : List Code} (h : f.ClassIn cs) (hc : Code.arithmeticOverflow ∉ cs) :
    f.NoOverflow :=
  fun he => hc (he ▸ h)

theorem NoOverflow.under {c : Code} {f : Fault} (hc : c ≠ .arithmeticOverflow) (h : f.NoOverflow) :
    (under c f).NoOverflow := by
  unfold NoOverflow
  rw [code_under]
  unfold Code.first
  split
  · exact hc
  · exact h

end Fault

theorem Raises.ok_bind {α β : Type} {a : α} {g : α → Except Fault β} {P : Fault → Prop} (h : Raises P (g a)) :
    Raises P (Except.ok a >>= g) := h

/-! ## Failures from one transaction -/

namespace Store.Txn

variable {ε ε' α β : Type} {P : ε → Prop} {tx : Tx}

/-- Every failure of `m` run from `tx` satisfies `P`. -/
def FailsAt (P : ε → Prop) (m : TxnOf ε α) (tx : Tx) : Prop := ∀ e, m tx = .error e → P e

namespace FailsAt

theorem bind {m : TxnOf ε α} {k : α → TxnOf ε β} (hm : FailsAt P m tx)
    (hk : ∀ a tx', Returns m tx a tx' → FailsAt P (k a) tx') : FailsAt P (m >>= k) tx := by
  intro e he
  simp only [Bind.bind, StateT.bind] at he
  cases hr : m tx with
  | error e' =>
    rw [hr] at he
    cases he
    exact hm _ hr
  | ok p =>
    rw [hr] at he
    exact hk p.1 p.2 hr e he

theorem guard {c : Prop} [Decidable c] {e : ε} {k : PUnit → TxnOf ε β} {m : TxnOf ε β} (he : c → P e)
    (hm : ¬ c → FailsAt P m tx) : FailsAt P (if c then (fun _ => .error e : TxnOf ε PUnit) >>= k else m) tx := by
  split
  · rename_i hc
    intro e' h
    cases h
    exact he hc
  · rename_i hc
    exact hm hc

theorem lift_ok {r : Except Fault α} {a : α} {k : α → Txn β} {P : Fault → Prop} (hr : r = .ok a)
    (hk : FailsAt P (k a) tx) : FailsAt P (lift r >>= k) tx := by
  subst hr
  exact hk

theorem mapFault {g : ε → ε'} {Q : ε' → Prop} {m : TxnOf ε α} (hm : FailsAt P m tx) (hg : ∀ e, P e → Q (g e)) :
    FailsAt Q (mapFault g m) tx := by
  intro e he
  unfold Txn.mapFault at he
  split at he
  · cases he
  · rename_i e' hr
    cases he
    exact hg e' (hm e' hr)

theorem and {Q : ε → Prop} {m : TxnOf ε α} (hP : FailsAt P m tx) (hQ : FailsAt Q m tx) :
    FailsAt (fun e => P e ∧ Q e) m tx :=
  fun e he => ⟨hP e he, hQ e he⟩

end FailsAt

theorem Fails.overflowsOnly {m : Txn α} {cs : List Code} (h : Fails (Fault.ClassIn cs) m)
    (hc : Code.arithmeticOverflow ∉ cs) (Q : Fault → Prop) (tx : Tx) : FailsAt (Fault.OverflowsOnly Q) m tx :=
  fun f hf => ((h tx f hf).noOverflow hc).only Q

theorem Fails.unclassedOnly {m : Txn α} (h : Fails Fault.Unclassed m) (Q : Fault → Prop) (tx : Tx) :
    FailsAt (Fault.OverflowsOnly Q) m tx :=
  fun f hf => (h tx f hf).noOverflow.only Q

theorem FailsAt.lift {r : Except Fault α} {P : Fault → Prop} (h : Raises P r) : FailsAt P (lift r) tx :=
  Fails.lift h tx

end Store.Txn

/-! ## The bank: no balance overflows but a mint's -/

namespace Bank

/-- A bank failure that is not a balance overflow. -/
def Error.NoOverflow (e : Error) : Prop := ∀ j, e ≠ .accountOverflow j ∧ e ≠ .supplyOverflow j

variable {α : Type} {tx : Tx}

theorem fails_io_noOverflow (m : Txn α) : Fails Error.NoOverflow (io m) :=
  Fails.mapFault (show Fails (fun _ => True) m from fun _ _ _ => trivial) fun _ _ => by simp [Error.NoOverflow]

theorem fails_account_noOverflow (id : String) : Fails Error.NoOverflow (account id) :=
  (fails_account_unfound id).mono fun _ h => by rcases h with ⟨d, rfl⟩ | ⟨f, rfl, -⟩ <;> simp [Error.NoOverflow]

theorem fails_asset_noOverflow (id : String) : Fails Error.NoOverflow (asset id) := by
  unfold asset
  refine Fails.bind (fails_io_noOverflow _) fun r => ?_
  split
  · exact Fails.pure _
  · exact Fails.error (by simp [Error.NoOverflow])

theorem fails_burn_noOverflow (auth : Address) (source : String) (amount : Nat) :
    Fails Error.NoOverflow (burn auth source amount) := by
  unfold burn
  refine Fails.bind (fails_account_noOverflow _) fun src => ?_
  refine Fails.guard (by simp [Error.NoOverflow]) (Fails.guard (by simp [Error.NoOverflow]) ?_)
  exact Fails.bind (fails_asset_noOverflow _) fun a =>
    Fails.bind (fails_io_noOverflow _) fun _ => fails_io_noOverflow _

theorem fails_mintTo_supply (auth : Address) (target : String) (amount : Nat) :
    Fails (fun e => e.NoOverflow ∨ ∃ a, e = .supplyOverflow a) (mintTo auth target amount) := by
  unfold mintTo
  refine Fails.bind ((fails_account_noOverflow _).mono fun _ h => .inl h) fun dst => ?_
  refine Fails.bind ((fails_asset_noOverflow _).mono fun _ h => .inl h) fun a => ?_
  refine Fails.guard (.inl (by simp [Error.NoOverflow])) (Fails.guard (.inr ⟨_, rfl⟩) ?_)
  exact Fails.bind ((fails_io_noOverflow _).mono fun _ h => .inl h) fun _ => (fails_io_noOverflow _).mono fun _ h => .inl h

/-- On a sound bank a transfer never overflows its target: the two accounts
hold one asset, whose supply bounds them together. -/
theorem failsAt_transfer (hs : Sound tx.lookup) (auth : Address) (source target : String) (amount : Nat) :
    FailsAt Error.NoOverflow (transfer auth source target amount) tx := by
  unfold transfer
  refine FailsAt.bind (fails_account_noOverflow _ tx) fun src t1 h1 => ?_
  obtain ⟨rfl, hsrc⟩ := account_returns h1
  refine FailsAt.bind (fails_account_noOverflow _ t1) fun dst t2 h2 => ?_
  obtain ⟨rfl, hdst⟩ := account_returns h2
  refine FailsAt.guard (fun _ => by simp [Error.NoOverflow]) fun _ => ?_
  refine FailsAt.guard (fun _ => by simp [Error.NoOverflow]) fun hasset => ?_
  refine FailsAt.guard (fun _ => by simp [Error.NoOverflow]) fun hle => ?_
  split
  · exact Fails.pure _ _
  · rename_i hne
    simp only [Bool.or_eq_true, decide_eq_true_eq, not_or] at hne
    have hle : amount ≤ src.balance := by omega
    have hfit := hs.transfer_guard hsrc hdst hne.1 (by simpa using hasset) hle
    refine FailsAt.guard (fun h => absurd h (by omega)) fun _ => ?_
    exact FailsAt.bind (fails_io_noOverflow _ t2) fun _ t3 _ => fails_io_noOverflow _ t3

end Bank

/-! ## Prices and figures -/

section
variable {tx tx' : Tx}

theorem pow10_ne_zero (d : Nat) : Nat.pow 10 d ≠ 0 := Nat.pos_iff_ne_zero.mp (Nat.pow_pos (by norm_num))

theorem Amount.pow10_fits {d : Nat} (hd : d ≤ Amount.maxDecimals) : Amount.pow10 d = .ok (Nat.pow 10 d) :=
  Amount.pow10_eq_ok.mpr ⟨hd, rfl⟩

theorem Amount.quotient_overflows {v n d : Nat} (hd : d ≠ 0) :
    Raises (Fault.OverflowsOnly Fault.QuotientOverflow) (Amount.mulDiv v n d) :=
  fun _ hf _ => ⟨v, n, d, hd, hf⟩

theorem Oracle.readPrice_positive {o : Oracle} {configured supplied : String} {p : Price}
    (h : Returns (o.readPrice configured supplied) tx p tx') : p.value ≠ 0 ∧ p.precision ≠ 0 := by
  unfold Oracle.readPrice at h
  obtain ⟨-, h1⟩ := Returns.guard h
  split at h1
  · obtain ⟨rfl, -⟩ := Returns.pure h1
    exact ⟨one_ne_zero, one_ne_zero⟩
  obtain ⟨-, h2⟩ := Returns.guard h1
  obtain ⟨r, t1, -, h3⟩ := Returns.bind h2
  obtain ⟨hpos, h4⟩ := Returns.guard h3
  obtain ⟨-, h5⟩ := Returns.guard h4
  split at h5
  · rename_i q hq
    obtain ⟨rfl, -⟩ := Returns.pure h5
    obtain ⟨-, rfl⟩ := Amount.pow10_eq_ok.mp hq
    exact ⟨by simp only [ne_eq, Int.toNat_eq_zero]; omega, pow10_ne_zero _⟩
  · exact absurd h5 not_returns_fail

theorem legAmount_overflows {sd amount : Nat} {leg : Leg} {price : Price} (hsd : sd ≤ Amount.maxDecimals)
    (hd : leg.decimals ≤ Amount.maxDecimals) (hp : price.value ≠ 0) :
    Raises (Fault.OverflowsOnly Fault.QuotientOverflow) (legAmount sd amount leg price) := by
  unfold legAmount
  refine Raises.bind (Amount.quotient_overflows (by decide)) fun _ => ?_
  refine Raises.bind (Amount.quotient_overflows hp) fun _ => ?_
  rw [Amount.pow10_fits hd, Amount.pow10_fits hsd]
  refine Raises.ok_bind (Raises.ok_bind ?_)
  refine Raises.bind (Amount.quotient_overflows (pow10_ne_zero sd)) fun _ => ?_
  split
  · exact Raises.bind (Raises.error ((Fault.noOverflow_raise (by decide) _).only _)) fun _ => Raises.pure _
  · exact Raises.pure _

theorem stableCost_overflows {sd out od : Nat} {price : Price} (hsd : sd ≤ Amount.maxDecimals)
    (hod : od ≤ Amount.maxDecimals) (hp : price.precision ≠ 0) :
    Raises (Fault.OverflowsOnly Fault.QuotientOverflow) (stableCost sd out od price) := by
  unfold stableCost
  refine Raises.bind (Amount.quotient_overflows hp) fun _ => ?_
  rw [Amount.pow10_fits hsd, Amount.pow10_fits hod]
  refine Raises.ok_bind (Raises.ok_bind ?_)
  refine Raises.bind (Amount.quotient_overflows (pow10_ne_zero od)) fun _ => ?_
  split
  · exact Raises.bind (Raises.error ((Fault.noOverflow_raise (by decide) _).only _)) fun _ => Raises.pure _
  · exact Raises.pure _

theorem splitFee_fits {amount feeBps : Nat} (hfee : feeBps ≤ maxFeeBps) (ha : amount < Amount.bound) :
    splitFee amount feeBps =
      .ok (amount * feeBps / Amount.basisPoints, amount - amount * feeBps / Amount.basisPoints) := by
  have h5 : 5 * (amount * feeBps / Amount.basisPoints) ≤ amount := Channel.five_mul_fee_le hfee
  have hq : Amount.mulDiv amount feeBps Amount.basisPoints = .ok (amount * feeBps / Amount.basisPoints) :=
    Amount.mulDiv_eq_ok.mpr ⟨by decide, by omega, rfl⟩
  have hs : Amount.checkedSub amount (amount * feeBps / Amount.basisPoints) =
      .ok (amount - amount * feeBps / Amount.basisPoints) :=
    Amount.checkedSub_eq_ok.mpr ⟨by omega, rfl⟩
  simp only [splitFee, hq, bind, Except.bind, hs]
  rfl

theorem Channel.Snapshot.apply_fits {w : Channel.Snapshot} {c : Counters} {x : Nat} (h : w.checkCaps c x = .ok ()) :
    ∃ r, w.apply c x = .ok r := by
  obtain ⟨hp, -, hl, -⟩ := Channel.checkCaps_eq_ok.mp h
  have h1 : Amount.checkedAdd c.lifetimeIssued x = .ok (c.lifetimeIssued + x) := Amount.checkedAdd_eq_ok.mpr ⟨hl, rfl⟩
  have h2 : Amount.checkedAdd w.issued x = .ok (w.issued + x) := Amount.checkedAdd_eq_ok.mpr ⟨hp, rfl⟩
  unfold Channel.Snapshot.apply
  simp only [h1, h2]
  split <;> exact ⟨_, rfl⟩

theorem MintChannel.Valid.decimals {c : MintChannel} (hv : c.Valid) : ∀ l ∈ c.basket, l.decimals ≤ Amount.maxDecimals :=
  fun l hl => hv.basket.elim (fun h => absurd hl (h ▸ List.not_mem_nil)) fun hb => hb.decimals l hl

/-- A mint's fee fits beside the fee its channel kept: the kept fee is at
most a fifth of what was issued, the new fee a fifth of the amount, and the
caps keep their sum within 64 bits. -/
theorem MintChannel.Valid.keptFee_lt {c : MintChannel} (hv : c.Valid) {w : Channel.Snapshot} {x : Nat}
    (hcaps : w.checkCaps c.counters x = .ok ()) :
    c.counters.accumulatedFee + x * c.feeBps / Amount.basisPoints < Amount.bound := by
  obtain ⟨-, -, hl, -⟩ := Channel.checkCaps_eq_ok.mp hcaps
  have h5 : 5 * (x * c.feeBps / Amount.basisPoints) ≤ x := Channel.five_mul_fee_le hv.fee_le
  have hkept := hv.fee_issued
  omega

end

namespace Engine

variable {α : Type} {tx : Tx}

theorem accountFault_noOverflow {e : Bank.Error} (hp : e.Plain) (ho : e.NoOverflow) : (accountFault e).NoOverflow := by
  have hbase : e.toFault.NoOverflow := by
    rcases hp with h | h <;> (unfold Fault.NoOverflow; rw [h]; decide)
  unfold accountFault
  split
  · exact hbase
  iterate 4 exact hbase.under (by decide)
  · exact absurd rfl (ho _).1
  · exact absurd rfl (ho _).2
  · exact hbase

theorem bankStep_overflowsOnly {m : Bank.Step α} {s : String} {Q : Fault → Prop}
    (hp : Fails Bank.Error.Plain m) (ho : FailsAt Bank.Error.NoOverflow m tx) :
    FailsAt (Fault.OverflowsOnly Q) (bankStep (fun e => Fault.within s (accountFault e)) m) tx :=
  FailsAt.mapFault (FailsAt.and (hp tx) ho) fun _ h => ((accountFault_noOverflow h.1 h.2).within s).only Q

/-! ## The conversions -/

/-- The failure of adding a burn's fee to the fee its channel kept in `L`. -/
def BurnFeeOverflow (L : Bytes → Option Bytes) (req : BurnRequest) (f : Fault) : Prop :=
  ∃ c, Channel.burnChannelIn L req.channel = some c ∧
    Amount.checkedAdd c.counters.accumulatedFee (req.amount * c.feeBps / Amount.basisPoints) = .error f

theorem priceLegs_overflows {e : Engine} {o : Oracle} {amount : Nat} (he : e.stableDecimals ≤ Amount.maxDecimals) :
    ∀ {legs : List (Leg × String × String × String)}, (∀ p ∈ legs, p.1.decimals ≤ Amount.maxDecimals) →
      Fails (Fault.OverflowsOnly Fault.QuotientOverflow) (priceLegs e o amount legs)
  | [], _ => Fails.pure _
  | (leg, feed, source, destination) :: rest, hd => fun tx => by
    unfold priceLegs
    refine FailsAt.bind ((Fails.mapFault (Oracle.fails_readPrice _ _ _) fun _ hf => hf.within _).overflowsOnly (by decide) _ tx)
      fun price t1 h1 => ?_
    have hp := Oracle.readPrice_positive (returns_mapFault.mp h1)
    refine FailsAt.bind (FailsAt.lift (legAmount_overflows he (hd _ (List.mem_cons_self ..)) hp.1)) fun n t2 _ => ?_
    exact FailsAt.bind (priceLegs_overflows he (fun p hp => hd p (List.mem_cons_of_mem _ hp)) t2)
      fun _ t3 _ => Fails.pure _ t3

theorem routeLegs_overflows {e : Engine} {o : Oracle} {amount : Nat} {requester custodian : Address}
    (he : e.stableDecimals ≤ Amount.maxDecimals) :
    ∀ {pairs : List (Leg × Channel.Route)}, (∀ p ∈ pairs, p.1.decimals ≤ Amount.maxDecimals) →
      Fails (Fault.OverflowsOnly Fault.QuotientOverflow) (routeLegs e o amount requester custodian pairs)
  | [], _ => Fails.pure _
  | (leg, r) :: rest, hd => fun tx => by
    unfold routeLegs
    refine FailsAt.bind ((Fails.mapFault (Oracle.fails_readPrice _ _ _) fun _ hf => hf.within _).overflowsOnly (by decide) _ tx)
      fun price t1 h1 => ?_
    have hp := Oracle.readPrice_positive (returns_mapFault.mp h1)
    refine FailsAt.bind (FailsAt.lift (legAmount_overflows he (hd _ (List.mem_cons_self ..)) hp.1)) fun n t2 _ => ?_
    refine FailsAt.bind ((fails_requireAccount _ _ _ _).overflowsOnly (by decide) _ t2) fun _ t3 _ => ?_
    refine FailsAt.bind ((fails_requireAccount _ _ _ _).overflowsOnly (by decide) _ t3) fun _ t4 _ => ?_
    exact FailsAt.bind (routeLegs_overflows he (fun p hp => hd p (List.mem_cons_of_mem _ hp)) t4)
      fun _ t5 _ => Fails.pure _ t5

theorem transferLegs_overflows {requester : Address} {Q : Fault → Prop} :
    ∀ {legs : List LegTransfer} {tx : Tx}, Bank.Sound tx.lookup →
      FailsAt (Fault.OverflowsOnly Q) (transferLegs requester legs) tx
  | [], _, _ => Fails.pure _ _
  | t :: rest, tx, hs => by
    unfold transferLegs
    refine FailsAt.bind (bankStep_overflowsOnly (Bank.fails_transfer _ _ _ _) (Bank.failsAt_transfer hs _ _ _ _))
      fun _ t1 h1 => ?_
    exact transferLegs_overflows (hs.transfer (bankStep_returns.mp h1))

theorem mintTo_overflowsOnly {Q : Fault → Prop} (auth : Address) (target : String) (amount : Nat) :
    Fails (Fault.OverflowsOnly fun f => Q f ∨ f.SupplyOverflow)
      (bankStep (fun e => Fault.within "issue stable" (accountFault e)) (Bank.mintTo auth target amount)) := fun tx =>
  FailsAt.mapFault (FailsAt.and (Bank.fails_mintTo auth target amount tx) (Bank.fails_mintTo_supply auth target amount tx))
    fun e h => by
      obtain ⟨hp, ho | ⟨a, rfl⟩⟩ := h
      · exact ((accountFault_noOverflow hp ho).within _).only _
      · exact fun _ => .inr ⟨a, rfl⟩

theorem mint_overflows {e : Engine} {ctx : Context} {req : MintRequest} (he : e.stableDecimals ≤ Amount.maxDecimals)
    (hc : Channel.Sound tx.lookup) (hb : Bank.Sound tx.lookup) :
    FailsAt (Fault.OverflowsOnly fun f => f.QuotientOverflow ∨ f.SupplyOverflow) (mint e ctx req) tx := by
  unfold mint
  refine FailsAt.bind (fails_requireAppConfig.overflowsOnly (by decide) _ tx) fun cfg t1 h1 => ?_
  obtain ⟨rfl, -⟩ := requireAppConfig_returns h1
  refine FailsAt.bind ((fails_activeMintChannel _).overflowsOnly (by decide) _ _) fun c t2 h2 => ?_
  obtain ⟨rfl, hcin, -⟩ := activeMintChannel_returns h2
  have hv := (hc.mint _ c hcin).2.2
  refine FailsAt.bind ((Fails.lift (raises_checkAmount _ _)).overflowsOnly (by decide) _ _) fun _ t3 h3 => ?_
  obtain ⟨-, rfl⟩ := Returns.lift h3
  refine FailsAt.guard (fun _ => (Fault.noOverflow_raise (by decide) _).only _) fun _ => ?_
  refine FailsAt.bind ((Fails.lift (Channel.raises_matchRoutes _ _)).overflowsOnly (by decide) _ _) fun routes t4 h4 => ?_
  obtain ⟨-, rfl⟩ := Returns.lift h4
  refine FailsAt.bind ((Fails.lift (Channel.raises_checkCaps _ _ _)).overflowsOnly (by decide) _ _) fun _ t5 h5 => ?_
  obtain ⟨hcaps, rfl⟩ := Returns.lift h5
  have hlegs : Fails (Fault.OverflowsOnly Fault.QuotientOverflow)
      (routeLegs e (e.oracle ctx) req.amount req.requester cfg.custodialSigner (c.basket.zip routes)) :=
    routeLegs_overflows he fun p hp => hv.decimals _ (List.of_mem_zip hp).1
  refine FailsAt.bind ((hlegs.mono fun _ h => h.mono fun _ => .inl) _) fun legs t6 h6 => ?_
  obtain rfl := routeLegs_returns h6
  refine FailsAt.bind ((fails_requireAccount _ _ _ _).overflowsOnly (by decide) _ _) fun _ t7 h7 => ?_
  obtain ⟨rfl, -⟩ := requireAccount_returns h7
  -- the caps admitted the amount, so it has 64 bits and the fee fits beside the kept one
  obtain ⟨-, -, hl, -⟩ := Channel.checkCaps_eq_ok.mp hcaps
  refine FailsAt.lift_ok (splitFee_fits hv.fee_le (by omega)) ?_
  refine FailsAt.lift_ok (Amount.checkedAdd_eq_ok.mpr ⟨hv.keptFee_lt hcaps, rfl⟩) ?_
  refine FailsAt.bind (transferLegs_overflows hb) fun _ t8 _ => ?_
  obtain ⟨⟨counters, reset⟩, hr⟩ := Channel.Snapshot.apply_fits hcaps
  refine FailsAt.lift_ok hr ?_
  refine FailsAt.bind (mintTo_overflowsOnly _ _ _ t8) fun _ t9 _ => ?_
  exact FailsAt.bind ((Channel.fails_putMintChannel _).unclassedOnly _ t9) fun _ t10 _ => Fails.pure _ t10

theorem quoteMint_overflows {e : Engine} {ctx : Context} {id : ChannelId} {x : Nat}
    (he : e.stableDecimals ≤ Amount.maxDecimals) (hc : Channel.Sound tx.lookup) :
    FailsAt (Fault.OverflowsOnly Fault.QuotientOverflow) (quoteMint e ctx id x) tx := by
  unfold quoteMint
  refine FailsAt.bind (fails_requireAppConfig.overflowsOnly (by decide) _ tx) fun cfg t1 h1 => ?_
  obtain ⟨rfl, -⟩ := requireAppConfig_returns h1
  refine FailsAt.bind ((fails_activeMintChannel _).overflowsOnly (by decide) _ _) fun c t2 h2 => ?_
  obtain ⟨rfl, hcin, -⟩ := activeMintChannel_returns h2
  have hv := (hc.mint _ c hcin).2.2
  refine FailsAt.bind ((Fails.lift (raises_checkAmount _ _)).overflowsOnly (by decide) _ _) fun _ t3 h3 => ?_
  obtain ⟨-, rfl⟩ := Returns.lift h3
  refine FailsAt.bind ((Fails.lift (Channel.raises_checkCaps _ _ _)).overflowsOnly (by decide) _ _) fun _ t4 h4 => ?_
  obtain ⟨hcaps, rfl⟩ := Returns.lift h4
  obtain ⟨-, -, hl, -⟩ := Channel.checkCaps_eq_ok.mp hcaps
  have hlegs : Fails (Fault.OverflowsOnly Fault.QuotientOverflow)
      (priceLegs e (e.oracle ctx) x (c.basket.map fun l => (l, l.priceFeed, "", ""))) :=
    priceLegs_overflows he fun p hp => by
      obtain ⟨l, hl, rfl⟩ := List.mem_map.mp hp
      exact hv.decimals l hl
  refine FailsAt.bind (hlegs _) fun legs t5 _ => ?_
  exact FailsAt.lift_ok (splitFee_fits hv.fee_le (by omega)) (Fails.pure _ _)

/-- A burn of a 64-bit amount from a sound store overflows only in a price or
scale quotient, or in adding its fee to the fee its channel kept. -/
theorem burn_overflows {e : Engine} {ctx : Context} {req : BurnRequest} (he : e.stableDecimals ≤ Amount.maxDecimals)
    (hx : req.amount < Amount.bound) (hc : Channel.Sound tx.lookup) (hb : Bank.Sound tx.lookup) :
    FailsAt (Fault.OverflowsOnly fun f => f.QuotientOverflow ∨ BurnFeeOverflow tx.lookup req f) (burn e ctx req) tx := by
  unfold burn
  refine FailsAt.bind (fails_requireAppConfig.overflowsOnly (by decide) _ tx) fun cfg t1 h1 => ?_
  obtain ⟨rfl, -⟩ := requireAppConfig_returns h1
  refine FailsAt.bind ((fails_activeBurnChannel _).overflowsOnly (by decide) _ _) fun c t2 h2 => ?_
  obtain ⟨rfl, hcin, -⟩ := activeBurnChannel_returns h2
  have hv := (hc.burn _ c hcin).2.2
  refine FailsAt.bind ((Fails.lift (raises_checkAmount _ _)).overflowsOnly (by decide) _ _) fun _ t3 h3 => ?_
  obtain ⟨-, rfl⟩ := Returns.lift h3
  refine FailsAt.bind ((fails_requireAccount _ _ _ _).overflowsOnly (by decide) _ _) fun _ t4 h4 => ?_
  obtain ⟨rfl, -⟩ := requireAccount_returns h4
  refine FailsAt.bind ((fails_requireAccount _ _ _ _).overflowsOnly (by decide) _ _) fun _ t5 h5 => ?_
  obtain ⟨rfl, -⟩ := requireAccount_returns h5
  refine FailsAt.bind ((fails_requireAccount _ _ _ _).overflowsOnly (by decide) _ _) fun _ t6 h6 => ?_
  obtain ⟨rfl, -⟩ := requireAccount_returns h6
  refine FailsAt.bind ((fails_requireAccount _ _ _ _).overflowsOnly (by decide) _ _) fun _ t7 h7 => ?_
  obtain ⟨rfl, -⟩ := requireAccount_returns h7
  refine FailsAt.bind ((Oracle.fails_readPrice _ _ _).overflowsOnly (by decide) _ _) fun price t8 h8 => ?_
  have hp := Oracle.readPrice_positive h8
  obtain rfl := Oracle.readPrice_returns h8
  refine FailsAt.bind (FailsAt.lift ((stableCost_overflows he hv.decimals_le hp.2).mono fun _ h => h.mono fun _ => Or.inl))
    fun cost t9 h9 => ?_
  obtain ⟨-, rfl⟩ := Returns.lift h9
  refine FailsAt.bind ((Fails.lift (Channel.raises_checkCaps _ _ _)).overflowsOnly (by decide) _ _) fun _ t10 h10 => ?_
  obtain ⟨hcaps, rfl⟩ := Returns.lift h10
  refine FailsAt.lift_ok (splitFee_fits hv.fee_le hx) ?_
  -- the kept fee is the one addition no cap bounds
  refine FailsAt.bind (FailsAt.lift fun f hf _ => .inr ⟨c, hcin, hf⟩) fun accumulated t11 h11 => ?_
  obtain ⟨-, rfl⟩ := Returns.lift h11
  refine FailsAt.bind (bankStep_overflowsOnly (Bank.fails_transfer _ _ _ _) (Bank.failsAt_transfer hb _ _ _ _))
    fun _ t12 h12 => ?_
  have hb12 := hb.transfer (bankStep_returns.mp h12)
  refine FailsAt.bind (bankStep_overflowsOnly (Bank.fails_burn _ _ _) (Bank.fails_burn_noOverflow _ _ _ _))
    fun _ t13 h13 => ?_
  have hb13 := hb12.burn (bankStep_returns.mp h13)
  obtain ⟨⟨counters, reset⟩, hr⟩ := Channel.Snapshot.apply_fits hcaps
  refine FailsAt.lift_ok hr ?_
  refine FailsAt.bind (bankStep_overflowsOnly (Bank.fails_transfer _ _ _ _) (Bank.failsAt_transfer hb13 _ _ _ _))
    fun _ t14 _ => ?_
  exact FailsAt.bind ((Channel.fails_putBurnChannel _).unclassedOnly _ t14) fun _ t15 _ => Fails.pure _ t15

theorem quoteBurn_overflows {e : Engine} {ctx : Context} {id : ChannelId} {x : Nat}
    (he : e.stableDecimals ≤ Amount.maxDecimals) (hx : x < Amount.bound) (hc : Channel.Sound tx.lookup) :
    FailsAt (Fault.OverflowsOnly Fault.QuotientOverflow) (quoteBurn e ctx id x) tx := by
  unfold quoteBurn
  refine FailsAt.bind (fails_requireAppConfig.overflowsOnly (by decide) _ tx) fun cfg t1 h1 => ?_
  obtain ⟨rfl, -⟩ := requireAppConfig_returns h1
  refine FailsAt.bind ((fails_activeBurnChannel _).overflowsOnly (by decide) _ _) fun c t2 h2 => ?_
  obtain ⟨rfl, hcin, -⟩ := activeBurnChannel_returns h2
  have hv := (hc.burn _ c hcin).2.2
  refine FailsAt.bind ((Fails.lift (raises_checkAmount _ _)).overflowsOnly (by decide) _ _) fun _ t3 h3 => ?_
  obtain ⟨-, rfl⟩ := Returns.lift h3
  refine FailsAt.bind ((Oracle.fails_readPrice _ _ _).overflowsOnly (by decide) _ _) fun price t4 h4 => ?_
  have hp := Oracle.readPrice_positive h4
  obtain rfl := Oracle.readPrice_returns h4
  refine FailsAt.bind (FailsAt.lift (stableCost_overflows he hv.decimals_le hp.2)) fun cost t5 h5 => ?_
  obtain ⟨-, rfl⟩ := Returns.lift h5
  refine FailsAt.bind ((Fails.lift (Channel.raises_checkCaps _ _ _)).overflowsOnly (by decide) _ _) fun _ t6 _ => ?_
  exact FailsAt.lift_ok (splitFee_fits hv.fee_le hx) (Fails.pure _ _)

/-- On a store reachable through the engine and the bank, with a stable unit
of at most nineteen decimals, every round a reader finds has a scale; a mint
overflows only in a price or scale quotient or in the supply it issues into;
a burn of a 64-bit amount only in such a quotient or in adding its fee to the
fee its channel kept; and their quotes only in such a quotient. -/
theorem conversion_overflow_sources {e : Engine} {db : Database} (he : e.stableDecimals ≤ Amount.maxDecimals)
    (hS : Reachable e db.store) (ctx : Context) :
    (∀ (tx : Tx) id r tx', tx.lookup = db.store.get? → Returns (Feed.latest id) tx r tx' →
      Amount.pow10 r.decimals = .ok (Nat.pow 10 r.decimals)) ∧
    (∀ req f, atomic db (mint e ctx req) = .error f →
      f.OverflowsOnly fun f => f.QuotientOverflow ∨ f.SupplyOverflow) ∧
    (∀ req f, req.amount < Amount.bound → atomic db (burn e ctx req) = .error f →
      f.OverflowsOnly fun f => f.QuotientOverflow ∨ BurnFeeOverflow db.store.get? req f) ∧
    (∀ id x f, view db (quoteMint e ctx id x) = .error f → f.OverflowsOnly Fault.QuotientOverflow) ∧
    ∀ id x f, x < Amount.bound → view db (quoteBurn e ctx id x) = .error f → f.OverflowsOnly Fault.QuotientOverflow := by
  have hc := Channel.Sound.of_reachable hS
  have hb := Bank.Sound.of_reachable hS
  -- a conversion starts from the committed store, and a quote from its read-only view
  have ha : ({ db := db } : Tx).lookup = db.store.get? := Tx.lookup_start db
  have hv : ({ db := db, readOnly := true } : Tx).lookup = db.store.get? := Tx.lookup_start db
  refine ⟨fun tx id r tx' hl h => Amount.pow10_fits (Feed.latest_decimals (hl ▸ Feed.Scaled.of_reachable hS) h),
    fun req f h => ?_, fun req f hx h => ?_, fun id x f h => ?_, fun id x f hx h => ?_⟩
  · rcases atomic_error h with hm | hf
    · exact mint_overflows he (ha ▸ hc) (ha ▸ hb) f hm
    · exact hf.noOverflow.only _
  · rcases atomic_error h with hm | hf
    · exact ha ▸ burn_overflows he hx (ha ▸ hc) (ha ▸ hb) f hm
    · exact hf.noOverflow.only _
  · exact quoteMint_overflows he (hv ▸ hc) f (view_error h)
  · exact quoteBurn_overflows he hx (hv ▸ hc) f (view_error h)

/-- After the sample trade, a conversion or quote fails with an arithmetic
fault only where a quotient or a supply overflows. -/
theorem conversion_overflow_sources_after_trade :
    Sample.engine.stableDecimals ≤ Amount.maxDecimals ∧
      Reachable Sample.engine ({ store := Sample.traded } : Database).store ∧
      (∀ (tx : Tx) id r tx', tx.lookup = Sample.traded.get? → Returns (Feed.latest id) tx r tx' →
        Amount.pow10 r.decimals = .ok (Nat.pow 10 r.decimals)) ∧
      (∀ req f, atomic { store := Sample.traded } (mint Sample.engine (Sample.ctxAt 1700000240) req) = .error f →
        f.OverflowsOnly fun f => f.QuotientOverflow ∨ f.SupplyOverflow) ∧
      (∀ req f, req.amount < Amount.bound → atomic { store := Sample.traded } (burn Sample.engine (Sample.ctxAt 1700000240) req) = .error f →
        f.OverflowsOnly fun f => f.QuotientOverflow ∨ BurnFeeOverflow Sample.traded.get? req f) ∧
      (∀ id x f, view { store := Sample.traded } (quoteMint Sample.engine (Sample.ctxAt 1700000240) id x) = .error f →
        f.OverflowsOnly Fault.QuotientOverflow) ∧
      ∀ id x f, x < Amount.bound → view { store := Sample.traded } (quoteBurn Sample.engine (Sample.ctxAt 1700000240) id x) = .error f →
        f.OverflowsOnly Fault.QuotientOverflow :=
  ⟨by decide, Sample.traded_reachable,
    @conversion_overflow_sources Sample.engine { store := Sample.traded } (by decide) Sample.traded_reachable (Sample.ctxAt 1700000240)⟩

end Engine

end Issuance
