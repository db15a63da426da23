import Mathlib
import Issuance.Proofs.Store.Failures
import Issuance.Engine.Admin
import Issuance.Engine.Convert
import Issuance.Engine.Query
/-! # The classes an operation can fail with

Each step names the classes it can fail with (`ClassIn`). Each operation
anyone may call fails only with classes other than `unauthorized`, whatever
the store holds: only the gate refuses a caller. -/
namespace Issuance

open Store Txn

/-- A failure of another class than a refused caller. -/
def Fault.NotUnauthorized (f : Fault) : Prop := f.code ≠ .unauthorized

namespace Fault

theorem Unclassed.notUnauthorized {f : Fault} (h : f.Unclassed) : f.NotUnauthorized := by
  unfold NotUnauthorized
  rw [h]
  decide

theorem notUnauthorized_raise {c : Code} (hc : c ≠ .unauthorized) (d : String) : (raise c d).NotUnauthorized := hc

theorem NotUnauthorized.within {f : Fault} (h : f.NotUnauthorized) (s : String) : (within s f).NotUnauthorized := h

theorem NotUnauthorized.under {c : Code} {f : Fault} (hc : c ≠ .unauthorized) (h : f.NotUnauthorized) :
    (under c f).NotUnauthorized := by
  unfold NotUnauthorized
  rw [code_under]
  unfold Code.first
  split
  · exact hc
  · exact h

/-- A failure of one of the classes `cs`. -/
def ClassIn (cs : List Code) (f : Fault) : Prop := f.code ∈ cs

theorem classIn_raise {c : Code} {cs : List Code} (h : c ∈ cs) (d : String) : (raise c d).ClassIn cs := h

theorem Unclassed.classIn {f : Fault} {cs : List Code} (h : f.Unclassed) (hc : Code.internal ∈ cs) :
    f.ClassIn cs := by
  unfold ClassIn
  rw [h]
  exact hc

theorem ClassIn.notUnauthorized {f : Fault} {cs : List Code} (h : f.ClassIn cs) (hc : Code.unauthorized ∉ cs) :
    f.NotUnauthorized :=
  fun he => hc (he ▸ h)

end Fault

theorem Raises.unrefused {α : Type} {r : Except Fault α} {cs : List Code} (h : Raises (Fault.ClassIn cs) r)
    (hc : Code.unauthorized ∉ cs) : Raises Fault.NotUnauthorized r :=
  h.mono fun _ hf => hf.notUnauthorized hc

theorem Store.Txn.Fails.unrefused {α : Type} {m : Txn α} {cs : List Code} (h : Fails (Fault.ClassIn cs) m)
    (hc : Code.unauthorized ∉ cs) : Fails Fault.NotUnauthorized m :=
  h.mono fun _ hf => hf.notUnauthorized hc

/-! ## Pure checks -/

section
variable {α : Type}

theorem raises_raise {c : Code} (hc : c ≠ .unauthorized) (d : String) :
    Raises Fault.NotUnauthorized (.error (Fault.raise c d) : Except Fault α) :=
  Raises.error (Fault.notUnauthorized_raise hc d)

theorem Amount.raises_mulDiv (v n d : Nat) : Raises Fault.NotUnauthorized (Amount.mulDiv v n d) := by
  unfold Amount.mulDiv
  split
  · exact raises_raise (by decide) _
  · split
    · exact Raises.ok _
    · exact raises_raise (by decide) _

theorem Amount.raises_pow10 (d : Nat) : Raises Fault.NotUnauthorized (Amount.pow10 d) := by
  unfold Amount.pow10
  split
  · exact Raises.ok _
  · exact raises_raise (by decide) _

theorem Amount.raises_checkedAdd (a b : Nat) : Raises Fault.NotUnauthorized (Amount.checkedAdd a b) := by
  unfold Amount.checkedAdd
  split
  · exact Raises.ok _
  · exact raises_raise (by decide) _

theorem Amount.raises_checkedSub (a b : Nat) : Raises Fault.NotUnauthorized (Amount.checkedSub a b) := by
  unfold Amount.checkedSub
  split
  · exact Raises.ok _
  · exact raises_raise (by decide) _

theorem raises_legAmount (sd amount : Nat) (leg : Leg) (price : Price) :
    Raises Fault.NotUnauthorized (legAmount sd amount leg price) := by
  unfold legAmount
  refine Raises.bind (Amount.raises_mulDiv _ _ _) fun _ => Raises.bind (Amount.raises_mulDiv _ _ _) fun _ => ?_
  refine Raises.bind (Amount.raises_pow10 _) fun _ => Raises.bind (Amount.raises_pow10 _) fun _ => ?_
  refine Raises.bind (Amount.raises_mulDiv _ _ _) fun _ => ?_
  split
  · exact Raises.bind (raises_raise (by decide) _) fun _ => Raises.pure _
  · exact Raises.pure _

theorem raises_stableCost (sd out od : Nat) (price : Price) :
    Raises Fault.NotUnauthorized (stableCost sd out od price) := by
  unfold stableCost
  refine Raises.bind (Amount.raises_mulDiv _ _ _) fun _ => Raises.bind (Amount.raises_pow10 _) fun _ => ?_
  refine Raises.bind (Amount.raises_pow10 _) fun _ => Raises.bind (Amount.raises_mulDiv _ _ _) fun _ => ?_
  split
  · exact Raises.bind (raises_raise (by decide) _) fun _ => Raises.pure _
  · exact Raises.pure _

theorem raises_splitFee (amount fee : Nat) : Raises Fault.NotUnauthorized (splitFee amount fee) :=
  Raises.bind (Amount.raises_mulDiv _ _ _) fun _ => Raises.bind (Amount.raises_checkedSub _ _) fun _ => Raises.pure _

theorem Engine.raises_checkAmount (amount least : Nat) :
    Raises (Fault.ClassIn [.invalidInput]) (Engine.checkAmount amount least) := by
  unfold Engine.checkAmount
  split
  · exact Raises.error (Fault.classIn_raise (by decide) _)
  · split
    · exact Raises.error (Fault.classIn_raise (by decide) _)
    · exact Raises.ok _

theorem Channel.raises_checkCaps (w : Channel.Snapshot) (c : Counters) (x : Nat) :
    Raises (Fault.ClassIn [.limitReached]) (w.checkCaps c x) := by
  unfold Channel.Snapshot.checkCaps
  dsimp only
  split
  · exact Raises.error (Fault.classIn_raise (by decide) _)
  · split
    · exact Raises.error (Fault.classIn_raise (by decide) _)
    · split
      · exact Raises.error (Fault.classIn_raise (by decide) _)
      · split
        · exact Raises.error (Fault.classIn_raise (by decide) _)
        · exact Raises.ok _

theorem Channel.raises_apply (w : Channel.Snapshot) (c : Counters) (x : Nat) :
    Raises Fault.NotUnauthorized (w.apply c x) := by
  unfold Channel.Snapshot.apply
  refine Raises.bind (Amount.raises_checkedAdd _ _) fun _ => Raises.bind (Amount.raises_checkedAdd _ _) fun _ => ?_
  split <;> exact Raises.pure _

theorem Channel.raises_matchRoutes (basket : List Leg) (routes : List Channel.Route) :
    Raises (Fault.ClassIn [.invalidInput]) (Channel.matchRoutes basket routes) := by
  unfold Channel.matchRoutes
  split
  · exact Raises.throw_bind (Fault.classIn_raise (by decide) _)
  · refine Raises.bind (Raises.foldlM (fun acc r => ?_) _ _) fun byAsset => Raises.mapM fun l _ => ?_
    · dsimp only
      split
      · exact Raises.error (Fault.classIn_raise (by decide) _)
      · exact Raises.pure _
    · split
      · exact Raises.pure _
      · exact Raises.error (Fault.classIn_raise (by decide) _)

end

/-! ## The bank and the registry -/

namespace Bank

/-- A bank failure that carries no class of the engine but a shortfall. -/
def Error.Plain (e : Error) : Prop := e.toFault.Unclassed ∨ e.toFault.code = .insufficientFunds

theorem Error.plain_of_ne_store {e : Error} (h : ∀ f, e ≠ .store f) : e.Plain := by
  cases e with
  | store f => exact absurd rfl (h f)
  | insufficientFunds => exact .inr rfl
  | _ => exact .inl rfl

theorem Error.Plain.notUnauthorized {e : Error} (h : e.Plain) : e.toFault.NotUnauthorized := by
  rcases h with h | h
  · exact h.notUnauthorized
  · unfold Fault.NotUnauthorized
    rw [h]
    decide

variable {α : Type}

theorem fails_io {m : Txn α} (h : Fails Fault.Unclassed m) : Fails Error.Plain (io m) :=
  Fails.mapFault h fun _ hf => .inl hf

theorem fails_fail {e : Error} (h : ∀ f, e ≠ .store f) : Fails Error.Plain (fail e : Step α) :=
  Fails.error (Error.plain_of_ne_store h)

theorem fails_asset (id : String) : Fails Error.Plain (asset id) := by
  unfold asset
  refine Fails.bind (fails_io (fails_read _ _)) fun r => ?_
  split
  · exact Fails.pure _
  · exact fails_fail (by simp)

/-- A failure to find an account: a missing one, or the store's own. -/
def Error.Unfound (e : Error) : Prop := (∃ d, e = .accountNotFound d) ∨ ∃ f, e = .store f ∧ f.Unclassed

theorem Error.Unfound.plain {e : Error} (h : e.Unfound) : e.Plain := by
  rcases h with ⟨d, rfl⟩ | ⟨f, rfl, hf⟩
  · exact Error.plain_of_ne_store (by simp)
  · exact .inl hf

theorem fails_account_unfound (id : String) : Fails Error.Unfound (account id) := by
  unfold account
  refine Fails.guard (.inl ⟨_, rfl⟩) (Fails.bind (Fails.mapFault (fails_read _ _) fun f hf => .inr ⟨f, rfl, hf⟩)
    fun r => ?_)
  split
  · exact Fails.pure _
  · exact Fails.error (.inl ⟨_, rfl⟩)

theorem fails_account (id : String) : Fails Error.Plain (account id) :=
  (fails_account_unfound id).mono fun _ h => h.plain

theorem fails_putAsset (a : Asset) : Fails Error.Plain (putAsset a) := fails_io (fails_write _ _)

theorem fails_putAccount (a : Account) : Fails Error.Plain (putAccount a) := fails_io (fails_write _ _)

theorem fails_openAccount (id : String) (owner : Address) (assetId fresh : String) :
    Fails Error.Plain (openAccount id owner assetId fresh) := by
  unfold openAccount
  refine Fails.bind (fails_asset _) fun _ => Fails.bind (fails_io (fails_has _)) fun _ => ?_
  exact Fails.guard (Error.plain_of_ne_store (by simp))
    (Fails.bind (fails_putAccount _) fun _ => Fails.pure _)

theorem fails_accountsByOwner (owner : Address) : Fails Error.Plain (accountsByOwner owner) :=
  Fails.bind (fails_io (fails_keys _)) fun keys =>
    Fails.bind (Fails.mapM fun _ _ => fails_io (fails_read _ _)) fun _ => Fails.pure _

theorem fails_transfer (auth : Address) (source target : String) (amount : Nat) :
    Fails Error.Plain (transfer auth source target amount) := by
  unfold transfer
  refine Fails.bind (fails_account _) fun src => Fails.bind (fails_account _) fun dst => ?_
  refine Fails.guard (Error.plain_of_ne_store (by simp)) (Fails.guard (Error.plain_of_ne_store (by simp))
    (Fails.guard (Error.plain_of_ne_store (by simp)) ?_))
  split
  · exact Fails.pure _
  · exact Fails.guard (Error.plain_of_ne_store (by simp))
      (Fails.bind (fails_putAccount _) fun _ => fails_putAccount _)

theorem fails_mintTo (auth : Address) (target : String) (amount : Nat) :
    Fails Error.Plain (mintTo auth target amount) := by
  unfold mintTo
  refine Fails.bind (fails_account _) fun dst => Fails.bind (fails_asset _) fun a => ?_
  exact Fails.guard (Error.plain_of_ne_store (by simp)) (Fails.guard (Error.plain_of_ne_store (by simp))
    (Fails.bind (fails_putAsset _) fun _ => fails_putAccount _))

theorem fails_burn (auth : Address) (source : String) (amount : Nat) : Fails Error.Plain (burn auth source amount) := by
  unfold burn
  refine Fails.bind (fails_account _) fun src => ?_
  refine Fails.guard (Error.plain_of_ne_store (by simp)) (Fails.guard (Error.plain_of_ne_store (by simp)) ?_)
  exact Fails.bind (fails_asset _) fun a => Fails.bind (fails_putAsset _) fun _ => fails_putAccount _

end Bank

namespace Feed

/-- Every failure of the registry is outside the engine's classes. -/
def Error.Plain (e : Error) : Prop := e.toFault.Unclassed

theorem Error.plain_of_ne_store {e : Error} (h : ∀ f, e ≠ .store f) : e.Plain := by
  cases e with
  | store f => exact absurd rfl (h f)
  | _ => rfl

variable {α : Type}

theorem fails_io {m : Txn α} (h : Fails Fault.Unclassed m) : Fails Error.Plain (io m) :=
  Fails.mapFault h fun _ hf => hf

theorem fails_fail {e : Error} (h : ∀ f, e ≠ .store f) : Fails Error.Plain (fail e : Step α) :=
  Fails.error (Error.plain_of_ne_store h)

theorem fails_load (id : String) : Fails Error.Plain (load id) := by
  unfold load
  refine Fails.guard (Error.plain_of_ne_store (by simp)) (Fails.bind (fails_io (fails_read _ _)) fun r => ?_)
  split
  · exact Fails.pure _
  · exact fails_fail (by simp)

theorem fails_latest (id : String) : Fails Error.Plain (latest id) := by
  unfold latest
  refine Fails.bind (fails_load _) fun s => ?_
  split
  · exact Fails.pure _
  · exact fails_fail (by simp)

theorem fails_list : Fails Error.Plain list :=
  Fails.bind (fails_io (fails_keys _)) fun keys =>
    Fails.bind (Fails.mapM fun _ _ => fails_io (fails_read _ _)) fun _ => Fails.pure _

end Feed

/-- A price is refused only as the oracle's: a mismatched feed, or an
unavailable, non-positive, stale or unscalable round. -/
theorem Oracle.fails_readPrice (o : Oracle) (configured supplied : String) :
    Fails (Fault.ClassIn [.oracleMismatch, .oracleUnavailable]) (o.readPrice configured supplied) := by
  unfold Oracle.readPrice
  refine Fails.guard (Fault.classIn_raise (by decide) _) ?_
  split
  · exact Fails.pure _
  refine Fails.guard (Fault.classIn_raise (by decide) _) ?_
  refine Fails.bind (Fails.mapFault (Feed.fails_latest _) fun _ _ => Fault.classIn_raise (by decide) _) fun round => ?_
  refine Fails.guard (Fault.classIn_raise (by decide) _) (Fails.guard (Fault.classIn_raise (by decide) _) ?_)
  split
  · exact Fails.pure _
  · exact fails_fail (Fault.classIn_raise (by decide) _)

/-! ## The records of the engine -/

namespace Channel

theorem fails_appConfig : Fails Fault.Unclassed appConfig :=
  Fails.bind (fails_read _ _) fun _ => Fails.pure _

theorem fails_mintChannel (id : ChannelId) : Fails Fault.Unclassed (mintChannel id) :=
  Fails.bind (fails_read _ _) fun _ => Fails.pure _

theorem fails_burnChannel (id : ChannelId) : Fails Fault.Unclassed (burnChannel id) :=
  Fails.bind (fails_read _ _) fun _ => Fails.pure _

theorem fails_putMintChannel (c : MintChannel) : Fails Fault.Unclassed (putMintChannel c) := by
  unfold putMintChannel
  exact Fails.guard (Fault.unclassed_plain _) (Fails.bind (fails_write _ _) fun _ => fails_append _ _)

theorem fails_putBurnChannel (c : BurnChannel) : Fails Fault.Unclassed (putBurnChannel c) := by
  unfold putBurnChannel
  exact Fails.guard (Fault.unclassed_plain _) (Fails.bind (fails_write _ _) fun _ => fails_append _ _)

theorem fails_mintChannels : Fails Fault.Unclassed mintChannels :=
  Fails.bind (fails_readList _) fun ids =>
    Fails.bind (Fails.mapM fun _ _ => fails_mintChannel _) fun _ => Fails.pure _

theorem fails_burnChannels : Fails Fault.Unclassed burnChannels :=
  Fails.bind (fails_readList _) fun ids =>
    Fails.bind (Fails.mapM fun _ _ => fails_burnChannel _) fun _ => Fails.pure _

end Channel

/-! ## The operations anyone may call -/

namespace Engine

variable {α : Type}

theorem fails_unclassed {m : Txn α} (h : Fails Fault.Unclassed m) : Fails Fault.NotUnauthorized m :=
  h.mono fun _ hf => hf.notUnauthorized

theorem accountFault_notUnauthorized {e : Bank.Error} (he : e.Plain) : (accountFault e).NotUnauthorized := by
  unfold accountFault
  split
  -- a shortfall keeps its class
  · exact he.notUnauthorized
  -- the four account failures become invalid accounts, the two overflows arithmetic overflows
  iterate 6 exact he.notUnauthorized.under (by decide)
  -- anything else is the bank's own failure
  exact he.notUnauthorized

theorem fails_accountFault {m : Bank.Step α} (h : Fails Bank.Error.Plain m) (s : String) :
    Fails Fault.NotUnauthorized (bankStep (fun e => Fault.within s (accountFault e)) m) :=
  Fails.mapFault h fun _ he => (accountFault_notUnauthorized he).within s

theorem fails_requireAppConfig : Fails (Fault.ClassIn [.unavailable, .internal]) requireAppConfig := by
  unfold requireAppConfig
  refine Fails.bind (Channel.fails_appConfig.mono fun _ hf => hf.classIn (by decide)) fun c => ?_
  split
  · exact Fails.pure _
  · exact fails_fail (Fault.classIn_raise (by decide) _)

theorem fails_activeMintChannel (id : ChannelId) :
    Fails (Fault.ClassIn [.unavailable, .internal]) (activeMintChannel id) := by
  unfold activeMintChannel
  refine Fails.bind ((Channel.fails_mintChannel _).mono fun _ hf => hf.classIn (by decide)) fun c => ?_
  split
  · exact Fails.guard (Fault.classIn_raise (by decide) _) (Fails.pure _)
  · exact fails_fail (Fault.classIn_raise (by decide) _)

theorem fails_activeBurnChannel (id : ChannelId) :
    Fails (Fault.ClassIn [.unavailable, .internal]) (activeBurnChannel id) := by
  unfold activeBurnChannel
  refine Fails.bind ((Channel.fails_burnChannel _).mono fun _ hf => hf.classIn (by decide)) fun c => ?_
  split
  · exact Fails.guard (Fault.classIn_raise (by decide) _) (Fails.pure _)
  · exact fails_fail (Fault.classIn_raise (by decide) _)

theorem accountFault_unfound {e : Bank.Error} (he : e.Unfound) : (accountFault e).ClassIn [.invalidAccount, .internal] := by
  rcases he with ⟨d, rfl⟩ | ⟨f, rfl, hf⟩
  · exact List.mem_cons_self ..
  · exact hf.classIn (by decide)

theorem fails_requireAccount (role id asset : String) (owner : Option Address) :
    Fails (Fault.ClassIn [.invalidAccount, .internal]) (requireAccount role id asset owner) := by
  unfold requireAccount
  refine Fails.guard (Fault.classIn_raise (by decide) _) ?_
  refine Fails.bind (Fails.mapFault (Bank.fails_account_unfound _) fun _ he => accountFault_unfound he) fun a => ?_
  refine Fails.guard (Fault.classIn_raise (by decide) _) ?_
  split
  · split
    · exact fails_fail (Fault.classIn_raise (by decide) _)
    · exact Fails.pure _
  · exact Fails.pure _

theorem fails_priceLegs (e : Engine) (o : Oracle) (amount : Nat) :
    ∀ legs, Fails Fault.NotUnauthorized (priceLegs e o amount legs)
  | [] => Fails.pure _
  | (leg, feed, source, destination) :: rest => by
    unfold priceLegs
    refine Fails.bind (Fails.mapFault ((Oracle.fails_readPrice _ _ _).unrefused (by decide)) fun _ hf => hf.within _) fun price => ?_
    refine Fails.bind (Fails.lift (raises_legAmount _ _ _ _)) fun n => ?_
    exact Fails.bind (fails_priceLegs e o amount rest) fun _ => Fails.pure _

theorem fails_routeLegs (e : Engine) (o : Oracle) (amount : Nat) (requester custodian : Address) :
    ∀ legs, Fails Fault.NotUnauthorized (routeLegs e o amount requester custodian legs)
  | [] => Fails.pure _
  | (leg, r) :: rest => by
    unfold routeLegs
    refine Fails.bind (Fails.mapFault ((Oracle.fails_readPrice _ _ _).unrefused (by decide)) fun _ hf => hf.within _) fun price => ?_
    refine Fails.bind (Fails.lift (raises_legAmount _ _ _ _)) fun n => ?_
    refine Fails.bind ((fails_requireAccount _ _ _ _).unrefused (by decide)) fun _ => Fails.bind ((fails_requireAccount _ _ _ _).unrefused (by decide)) fun _ => ?_
    exact Fails.bind (fails_routeLegs e o amount requester custodian rest) fun _ => Fails.pure _

theorem fails_transferLegs (requester : Address) :
    ∀ legs, Fails Fault.NotUnauthorized (transferLegs requester legs)
  | [] => Fails.pure _
  | t :: rest => by
    unfold transferLegs
    exact Fails.bind (fails_accountFault (Bank.fails_transfer _ _ _ _) _) fun _ => fails_transferLegs requester rest

theorem fails_mint (e : Engine) (ctx : Context) (req : MintRequest) : Fails Fault.NotUnauthorized (mint e ctx req) := by
  unfold mint
  refine Fails.bind (fails_requireAppConfig.unrefused (by decide)) fun cfg => Fails.bind ((fails_activeMintChannel _).unrefused (by decide)) fun c => ?_
  refine Fails.bind (Fails.lift ((raises_checkAmount _ _).unrefused (by decide))) fun _ => ?_
  refine Fails.guard (Fault.notUnauthorized_raise (by decide) _) ?_
  refine Fails.bind (Fails.lift ((Channel.raises_matchRoutes _ _).unrefused (by decide))) fun routes => ?_
  refine Fails.bind (Fails.lift ((Channel.raises_checkCaps _ _ _).unrefused (by decide))) fun _ => ?_
  refine Fails.bind (fails_routeLegs _ _ _ _ _ _) fun legs => Fails.bind ((fails_requireAccount _ _ _ _).unrefused (by decide)) fun _ => ?_
  refine Fails.bind (Fails.lift (raises_splitFee _ _)) fun ⟨fee, payout⟩ => ?_
  refine Fails.bind (Fails.lift (Amount.raises_checkedAdd _ _)) fun accumulated => ?_
  refine Fails.bind (fails_transferLegs _ _) fun _ => ?_
  refine Fails.bind (Fails.lift (Channel.raises_apply _ _ _)) fun ⟨counters, reset⟩ => ?_
  refine Fails.bind (fails_accountFault (Bank.fails_mintTo _ _ _) _) fun _ => ?_
  exact Fails.bind (fails_unclassed (Channel.fails_putMintChannel _)) fun _ => Fails.pure _

theorem fails_burn (e : Engine) (ctx : Context) (req : BurnRequest) : Fails Fault.NotUnauthorized (burn e ctx req) := by
  unfold burn
  refine Fails.bind (fails_requireAppConfig.unrefused (by decide)) fun cfg => Fails.bind ((fails_activeBurnChannel _).unrefused (by decide)) fun c => ?_
  refine Fails.bind (Fails.lift ((raises_checkAmount _ _).unrefused (by decide))) fun _ => ?_
  refine Fails.bind ((fails_requireAccount _ _ _ _).unrefused (by decide)) fun _ => Fails.bind ((fails_requireAccount _ _ _ _).unrefused (by decide)) fun _ => ?_
  refine Fails.bind ((fails_requireAccount _ _ _ _).unrefused (by decide)) fun _ => Fails.bind ((fails_requireAccount _ _ _ _).unrefused (by decide)) fun _ => ?_
  refine Fails.bind ((Oracle.fails_readPrice _ _ _).unrefused (by decide)) fun price => ?_
  refine Fails.bind (Fails.lift (raises_stableCost _ _ _ _)) fun cost => ?_
  refine Fails.bind (Fails.lift ((Channel.raises_checkCaps _ _ _).unrefused (by decide))) fun _ => ?_
  refine Fails.bind (Fails.lift (raises_splitFee _ _)) fun ⟨fee, payout⟩ => ?_
  refine Fails.bind (Fails.lift (Amount.raises_checkedAdd _ _)) fun accumulated => ?_
  refine Fails.bind (fails_accountFault (Bank.fails_transfer _ _ _ _) _) fun _ => ?_
  refine Fails.bind (fails_accountFault (Bank.fails_burn _ _ _) _) fun _ => ?_
  refine Fails.bind (Fails.lift (Channel.raises_apply _ _ _)) fun ⟨counters, reset⟩ => ?_
  refine Fails.bind (fails_accountFault (Bank.fails_transfer _ _ _ _) _) fun _ => ?_
  exact Fails.bind (fails_unclassed (Channel.fails_putBurnChannel _)) fun _ => Fails.pure _

theorem fails_quoteMint (e : Engine) (ctx : Context) (id : ChannelId) (amount : Nat) :
    Fails Fault.NotUnauthorized (quoteMint e ctx id amount) := by
  unfold quoteMint
  refine Fails.bind (fails_requireAppConfig.unrefused (by decide)) fun cfg => Fails.bind ((fails_activeMintChannel _).unrefused (by decide)) fun c => ?_
  refine Fails.bind (Fails.lift ((raises_checkAmount _ _).unrefused (by decide))) fun _ => ?_
  refine Fails.bind (Fails.lift ((Channel.raises_checkCaps _ _ _).unrefused (by decide))) fun _ => ?_
  refine Fails.bind (fails_priceLegs _ _ _ _) fun legs => ?_
  exact Fails.bind (Fails.lift (raises_splitFee _ _)) fun ⟨fee, payout⟩ => Fails.pure _

theorem fails_quoteBurn (e : Engine) (ctx : Context) (id : ChannelId) (amount : Nat) :
    Fails Fault.NotUnauthorized (quoteBurn e ctx id amount) := by
  unfold quoteBurn
  refine Fails.bind (fails_requireAppConfig.unrefused (by decide)) fun cfg => Fails.bind ((fails_activeBurnChannel _).unrefused (by decide)) fun c => ?_
  refine Fails.bind (Fails.lift ((raises_checkAmount _ _).unrefused (by decide))) fun _ => ?_
  refine Fails.bind ((Oracle.fails_readPrice _ _ _).unrefused (by decide)) fun price => ?_
  refine Fails.bind (Fails.lift (raises_stableCost _ _ _ _)) fun cost => ?_
  refine Fails.bind (Fails.lift ((Channel.raises_checkCaps _ _ _).unrefused (by decide))) fun _ => ?_
  exact Fails.bind (Fails.lift (raises_splitFee _ _)) fun ⟨fee, payout⟩ => Fails.pure _

/-- Opening an account fails as a request that names no asset or an existing
account, or outside every class. -/
theorem fails_openAccount (ctx : Context) (owner : Address) (id asset : String) :
    Fails Fault.NotUnauthorized (openAccount ctx owner id asset) := by
  unfold openAccount
  refine Fails.bind (Fails.mapFault (Bank.fails_openAccount _ _ _ _) fun e he => ?_) fun _ => Fails.pure _
  split
  · exact he.notUnauthorized.under (by decide)
  · exact he.notUnauthorized.under (by decide)
  · exact he.notUnauthorized

theorem fails_getAppConfig : Fails Fault.NotUnauthorized getAppConfig := fails_requireAppConfig.unrefused (by decide)

theorem fails_rollingHours : Fails Fault.NotUnauthorized rollingHours := by
  unfold rollingHours
  refine Fails.bind (Fails.mapFault (fails_unclassed Channel.fails_appConfig) fun _ hf => hf.within _) fun c => ?_
  split <;> exact Fails.pure _

theorem fails_getMintChannel (now : Int) (id : ChannelId) : Fails Fault.NotUnauthorized (getMintChannel now id) := by
  unfold getMintChannel
  refine Fails.bind (fails_unclassed (Channel.fails_mintChannel _)) fun c => ?_
  split
  · exact Fails.bind fails_rollingHours fun _ => Fails.pure _
  · exact fails_fail (Fault.notUnauthorized_raise (by decide) _)

theorem fails_getBurnChannel (now : Int) (id : ChannelId) : Fails Fault.NotUnauthorized (getBurnChannel now id) := by
  unfold getBurnChannel
  refine Fails.bind (fails_unclassed (Channel.fails_burnChannel _)) fun c => ?_
  split
  · exact Fails.bind fails_rollingHours fun _ => Fails.pure _
  · exact fails_fail (Fault.notUnauthorized_raise (by decide) _)

theorem fails_listMintChannels (now : Int) : Fails Fault.NotUnauthorized (listMintChannels now) :=
  Fails.bind (fails_unclassed Channel.fails_mintChannels) fun _ => Fails.bind fails_rollingHours fun _ => Fails.pure _

theorem fails_listBurnChannels (now : Int) : Fails Fault.NotUnauthorized (listBurnChannels now) :=
  Fails.bind (fails_unclassed Channel.fails_burnChannels) fun _ => Fails.bind fails_rollingHours fun _ => Fails.pure _

theorem fails_account (id : String) : Fails Fault.NotUnauthorized (account id) :=
  Fails.mapFault (Bank.fails_account id) fun _ he => accountFault_notUnauthorized he

theorem fails_accountsByOwner (owner : Address) : Fails Fault.NotUnauthorized (accountsByOwner owner) :=
  Fails.mapFault (Bank.fails_accountsByOwner owner) fun _ he => he.notUnauthorized

theorem fails_listFeeds : Fails Fault.NotUnauthorized listFeeds :=
  Fails.mapFault Feed.fails_list fun _ he => Fault.Unclassed.notUnauthorized he

end Engine

end Issuance
