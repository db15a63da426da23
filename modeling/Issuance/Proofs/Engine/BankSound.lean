import Mathlib
import Issuance.Proofs.Bank.Supply
import Issuance.Proofs.Channel.Checks
import Issuance.Proofs.Engine.Script
/-! # The bank stays sound along every run

`Bank.Sound` holds of the empty store and every step keeps it, so on every
reachable store a burn never exceeds the supply and a transfer never
overflows. -/
namespace Issuance

open Store Txn Bank Channel Engine

namespace Bank

variable {tx tx' : Tx}

theorem Sound.stages {P : Bytes → Prop} (hs : Sound tx.lookup) (h : tx.Stages P tx') (hP : ∀ k, P k → ¬ IsKey k) :
    Sound tx'.lookup :=
  hs.congr (fun i => recordAt_of_stages h fun hk => hP _ hk (isKey_asset i))
    (fun j => recordAt_of_stages h fun hk => hP _ hk (isKey_account j))

theorem Sound.putMintChannel {c : MintChannel} {u : Unit} (hs : Sound tx.lookup)
    (h : Returns (Channel.putMintChannel c) tx u tx') : Sound tx'.lookup :=
  hs.stages (putMintChannel_stages h) (by rintro k (rfl | rfl) <;> simp)

theorem Sound.putBurnChannel {c : BurnChannel} {u : Unit} (hs : Sound tx.lookup)
    (h : Returns (Channel.putBurnChannel c) tx u tx') : Sound tx'.lookup :=
  hs.stages (putBurnChannel_stages h) (by rintro k (rfl | rfl) <;> simp)

theorem Sound.transferLegs {requester : Address} {legs : List LegTransfer} {u : Unit} (hs : Sound tx.lookup)
    (h : Returns (Engine.transferLegs requester legs) tx u tx') : Sound tx'.lookup := by
  have hc := transferLegs_chain h
  clear h
  induction hc with
  | refl => exact hs
  | tail _ ht ih =>
    obtain ⟨src, dst, amount, ht⟩ := ht
    exact ih.transfer ht

theorem Sound.empty : Sound ({} : Store).get? := by
  have hnone : ∀ k, ({} : Store).get? k = none := fun k => rfl
  refine ⟨fun i a h => ?_, fun j x h => ?_, fun i a h => ?_⟩ <;>
    simp [assetIn, accountIn, recordAt, hnone] at h

section
variable {e : Engine} {ctx : Context}

theorem Sound.op {o : Op} {r : o.Result × List Event} (hs : Sound tx.lookup) (hctx : ctx.Typed) (ho : o.Typed)
    (h : Returns (o.txn e ctx) tx r tx') : Sound tx'.lookup := by
  cases o with
  | createAppConfig signer =>
    obtain ⟨-, rfl⟩ := createAppConfig_returns h
    exact hs.restaged (by simp) (by simp) _
  | setAppConfig hours =>
    obtain ⟨c, -, rfl⟩ := setAppConfig_returns h
    exact hs.restaged (by simp) (by simp) _
  | createAsset id decimals authority =>
    obtain ⟨signer, hdec, h1⟩ := Engine.createAsset_returns h
    have hdec : decimals ≤ 19 := checkDecimals_eq_ok.mp hdec
    exact hs.createAsset ho (by omega) h1
  | createFeed id description decimals =>
    obtain ⟨b, rfl⟩ := createFeed_returns h
    exact hs.restaged (by simp) (by simp) _
  | submitRound id answer =>
    obtain ⟨i, b, rfl⟩ := submitRound_returns h
    exact hs.restaged (by simp) (by simp) _
  | openAccount owner id asset => exact hs.openAccount ho.1 hctx.fresh ho.2 (Engine.openAccount_returns h)
  | createMintChannel path capacity =>
    obtain ⟨cfg, p, -, -, -, h1, -⟩ := createMintChannel_returns h
    exact hs.putMintChannel h1
  | setMintChannel id s =>
    obtain ⟨cfg, c, basket, -, -, -, -, -, h1⟩ := setMintChannel_returns h
    exact hs.putMintChannel h1
  | createBurnChannel path =>
    obtain ⟨cfg, p, -, -, -, h1, -⟩ := createBurnChannel_returns h
    exact hs.putBurnChannel h1
  | setBurnChannel id s =>
    obtain ⟨cfg, c, -, -, -, -, h1⟩ := setBurnChannel_returns h
    exact hs.putBurnChannel h1
  | mint req =>
    obtain ⟨cfg, c, rcp, fee, payout, counters, reset, legs, t1, t2, -, -, -, -, -, -, -, -, -, h1, -, h2, h3, -⟩ :=
      mint_returns h
    exact ((hs.transferLegs h1).mintTo h2).putMintChannel h3
  | burn req =>
    obtain ⟨cfg, c, cust, cost, fee, payout, counters, reset, price, t1, t2, t3, -, -, -, -, -, -, -, -, h1, h2, -, h3,
      h4, -⟩ :=
      Engine.burn_returns h
    exact (((hs.transfer h1).burn h2).transfer h3).putBurnChannel h4
  | withdrawFee source destination amount =>
    obtain ⟨signer, src, h1⟩ := withdrawFee_returns h
    exact hs.transfer h1
  | releaseAssetCustody asset next =>
    obtain ⟨signer, h1⟩ := releaseAssetCustody_returns h
    exact hs.setMintAuthority h1

theorem Sound.call {c : BankCall} {r : c.Result} (hs : Sound tx.lookup) (hc : c.Typed)
    (h : Returns c.step tx r tx') : Sound tx'.lookup := by
  cases c with
  | createAsset id decimals authority => exact hs.createAsset hc.1 hc.2 h
  | openAccount id owner asset fresh => exact hs.openAccount hc.1 hc.2.2 hc.2.1 h
  | transfer authority source target amount => exact hs.transfer h
  | mintTo authority target amount => exact hs.mintTo h
  | burn authority source amount => exact hs.burn h
  | setMintAuthority current asset next => exact hs.setMintAuthority h

theorem Sound.of_reachable {S : Store} (h : Reachable e S) : Sound S.get? :=
  h.views Sound.empty (fun _ _ _ _ _ hctx ho hs hm => hs.op hctx ho hm) (fun _ _ _ _ hc hs hm => hs.call hc hm)

end

end Bank

namespace Engine

/-- On every reachable store, accounts name existing assets, each supply is the
sum of its balances, a burn never exceeds the supply, and a transfer never
overflows. -/
theorem reachable_supply_balanced {e : Engine} {S : Store} (h : Reachable e S) :
    (∀ j x, accountIn S.get? j = some x → (assetIn S.get? x.asset).isSome) ∧
    (∀ i a, assetIn S.get? i = some a → a.supply = held S.get? i) ∧
    (∀ j x a amount, accountIn S.get? j = some x → amount ≤ x.balance →
      assetIn S.get? (Text.trim x.asset) = some a → amount ≤ a.supply) ∧
    (∀ j k x y amount, accountIn S.get? j = some x → accountIn S.get? k = some y → x.id ≠ y.id →
      x.asset = y.asset → amount ≤ x.balance → y.balance + amount < Amount.bound) := by
  have hs := Sound.of_reachable h
  -- the guards are stated over a transaction; one started on a database holding `S` sees `S`
  have hv : ({ db := { store := S } } : Tx).lookup = S.get? := Tx.lookup_start _
  rw [← hv] at hs ⊢
  refine ⟨fun j x hx => (hs.account j x hx).2.2, hs.supply, fun j x a amount hx hle ha => ?_,
    fun j k x y amount hx hy hid hasset hle => ?_⟩
  · exact hs.burn_guard hx hle ha
  · exact hs.transfer_guard hx hy hid hasset hle

/-- The balance holds after the sample history's mint, burn and fee withdrawal. -/
theorem supply_balanced_after_trade :
    Reachable Sample.engine Sample.traded ∧
    (∀ j x, accountIn Sample.traded.get? j = some x → (assetIn Sample.traded.get? x.asset).isSome) ∧
    (∀ i a, assetIn Sample.traded.get? i = some a → a.supply = held Sample.traded.get? i) ∧
    (∀ j x a amount, accountIn Sample.traded.get? j = some x → amount ≤ x.balance →
      assetIn Sample.traded.get? (Text.trim x.asset) = some a → amount ≤ a.supply) ∧
    (∀ j k x y amount, accountIn Sample.traded.get? j = some x → accountIn Sample.traded.get? k = some y →
      x.id ≠ y.id → x.asset = y.asset → amount ≤ x.balance → y.balance + amount < Amount.bound) :=
  ⟨Sample.traded_reachable, reachable_supply_balanced Sample.traded_reachable⟩

end Engine

end Issuance
