import Mathlib
import Issuance.Proofs.Engine.StableSupply
/-! # How the bank's records move

`Shift L L' δ σ`: balances moved by `δ` and supplies by `σ`, everything else
kept. Shifts compose by adding, and on a sound view each bank operation is a
shift, as are the legs of a mint. -/
namespace Issuance

open Store Txn Bank Engine

namespace Bank

/-- The balance of an account in a view, none counting as zero. -/
def balanceIn (L : Bytes → Option Bytes) (j : String) : ℕ := ((accountIn L j).map Account.balance).getD 0

/-- What a transfer of `amount` from `source` to `target` moves into the
account `j`, the accounts named as the bank trims them. -/
def transferDelta (source target : String) (amount : Nat) (j : String) : ℤ :=
  (if j = Text.trim target then (amount : ℤ) else 0) - if j = Text.trim source then (amount : ℤ) else 0

/-- From `L` to `L'` every balance moved by `δ` and every supply by `σ`, and
nothing else of the accounts and assets changed. -/
structure Shift (L L' : Bytes → Option Bytes) (δ σ : String → ℤ) : Prop where
  account : ∀ j, (accountIn L' j).map (fun x => { x with balance := 0 }) =
    (accountIn L j).map (fun x => { x with balance := 0 })
  balance : ∀ j, (balanceIn L' j : ℤ) = balanceIn L j + δ j
  asset : ∀ i, (assetIn L' i).map (fun a => { a with supply := 0 }) =
    (assetIn L i).map (fun a => { a with supply := 0 })
  supply : ∀ i, (supplyIn L' i : ℤ) = supplyIn L i + σ i

namespace Shift

variable {L L' L'' : Bytes → Option Bytes} {δ δ' σ σ' : String → ℤ}

theorem refl (L : Bytes → Option Bytes) : Shift L L 0 0 :=
  ⟨fun _ => rfl, fun _ => by simp, fun _ => rfl, fun _ => by simp⟩

theorem trans (h : Shift L L' δ σ) (h' : Shift L' L'' δ' σ') : Shift L L'' (δ + δ') (σ + σ') := by
  refine ⟨fun j => (h'.account j).trans (h.account j), fun j => ?_, fun i => (h'.asset i).trans (h.asset i),
    fun i => ?_⟩
  · rw [h'.balance, h.balance, Pi.add_apply, add_assoc]
  · rw [h'.supply, h.supply, Pi.add_apply, add_assoc]

theorem of_eq (h : Shift L L' δ σ) (hδ : ∀ j, δ j = δ' j) (hσ : ∀ i, σ i = σ' i) : Shift L L' δ' σ' := by
  obtain rfl : δ = δ' := funext hδ
  obtain rfl : σ = σ' := funext hσ
  exact h

end Shift

section
variable {tx tx' : Tx}

theorem Shift.of_stages {P : Bytes → Prop} (h : tx.Stages P tx') (hP : ∀ k, P k → ¬ IsKey k) :
    Shift tx.lookup tx'.lookup 0 0 := by
  have hacc : ∀ j, accountIn tx'.lookup j = accountIn tx.lookup j := fun j => by
    rw [accountIn, recordAt_of_stages h fun hk => hP _ hk (isKey_account j)]
    rfl
  have hasset : ∀ i, assetIn tx'.lookup i = assetIn tx.lookup i := fun i => by
    rw [assetIn, recordAt_of_stages h fun hk => hP _ hk (isKey_asset i)]
    rfl
  exact ⟨fun j => by rw [hacc], fun j => by simp [balanceIn, hacc], fun i => by rw [hasset],
    fun i => by simp [supplyIn, hasset]⟩

theorem stages_of_accounts (h : tx.Stages (fun k => ∃ j, k = accountKey j) tx') : tx.Stages IsKey tx' :=
  h.mono fun _ ⟨j, hj⟩ => hj ▸ isKey_account j

theorem Shift.restaged_account {x : Account} (hx : accountIn tx.lookup x.id = some x) {b : Nat}
    (hst : ({ x with balance := b } : Account).Storable) :
    Shift tx.lookup (tx.restaged (accountKey x.id) (some (Rlp.encode (accountValue { x with balance := b })))).lookup
      (fun j => if j = x.id then (b : ℤ) - x.balance else 0) 0 := by
  have hacc := @accountIn_restaged_account tx _ hst x.id
  have hasset : ∀ i, assetIn (tx.restaged (accountKey x.id)
      (some (Rlp.encode (accountValue { x with balance := b })))).lookup i = assetIn tx.lookup i :=
    fun i => assetIn_restaged_of_ne (by simp)
  refine ⟨fun j => ?_, fun j => ?_, fun i => by rw [hasset], fun i => by simp [supplyIn, hasset]⟩
  · rw [hacc]
    split
    · rename_i hj
      rw [hj, hx]
      rfl
    · rfl
  · simp only [balanceIn, hacc]
    split
    · rename_i hj
      simp [hj, hx]
    · simp

theorem Shift.restaged_asset {a : Asset} (ha : assetIn tx.lookup a.id = some a) {n : Nat}
    (hst : ({ a with supply := n } : Asset).Storable) :
    Shift tx.lookup (tx.restaged (assetKey a.id) (some (Rlp.encode (assetValue { a with supply := n })))).lookup
      0 (fun i => if i = a.id then (n : ℤ) - a.supply else 0) := by
  have hasset := @assetIn_restaged_asset tx _ hst a.id
  have hacc : ∀ j, accountIn (tx.restaged (assetKey a.id)
      (some (Rlp.encode (assetValue { a with supply := n })))).lookup j = accountIn tx.lookup j :=
    fun j => accountIn_restaged_of_ne (by simp)
  refine ⟨fun j => by rw [hacc], fun j => by simp [balanceIn, hacc], fun i => ?_, fun i => ?_⟩
  · rw [hasset]
    split
    · rename_i hi
      rw [hi, ha]
      rfl
    · rfl
  · simp only [supplyIn, hasset]
    split
    · rename_i hi
      simp [hi, ha]
    · simp

theorem Shift.transfer {auth : Address} {source target : String} {amount : Nat} {u : Unit}
    (hs : Sound tx.lookup) (h : Returns (Bank.transfer auth source target amount) tx u tx') :
    Shift tx.lookup tx'.lookup (transferDelta source target amount) 0 := by
  obtain ⟨s, d, hsrc, hdst, -, -, hle, ⟨hsame, rfl⟩ | ⟨hne, -, hv, rfl⟩⟩ := transfer_returns h
  all_goals
    obtain ⟨hsid, hss, -⟩ := hs.account _ s hsrc
    obtain ⟨hdid, hds, -⟩ := hs.account _ d hdst
  · -- one account, or nothing moved: what leaves comes back
    refine (Shift.refl _).of_eq (fun j => ?_) fun _ => rfl
    unfold transferDelta
    rcases hsame with heq | rfl
    · rw [← hsid, ← hdid, heq]
      simp
    · simp
  · rw [← hsid] at hsrc
    rw [← hdid] at hdst
    -- the target is still as it was once the source is written
    have hdst' : accountIn (tx.restaged (accountKey s.id) (some (Rlp.encode (accountValue
        { s with balance := s.balance - amount })))).lookup d.id = some d := by
      rw [accountIn_restaged_of_ne (by simpa using hne.symm), hdst]
    have h1 := Shift.restaged_account hsrc (hss.debit amount)
    have h2 := Shift.restaged_account hdst' (hds.withBalance hv)
    refine (h1.trans h2).of_eq (fun j => ?_) fun _ => rfl
    simp only [Pi.add_apply, transferDelta, ← hsid, ← hdid]
    push_cast [Nat.cast_sub hle]
    split_ifs <;> omega

theorem Shift.mintTo {auth : Address} {target : String} {amount : Nat} {u : Unit}
    (hs : Sound tx.lookup) (h : Returns (Bank.mintTo auth target amount) tx u tx') :
    ∃ d, accountIn tx.lookup (Text.trim target) = some d ∧
      Shift tx.lookup tx'.lookup (fun j => if j = Text.trim target then (amount : ℤ) else 0)
        (fun i => if i = d.asset then (amount : ℤ) else 0) := by
  obtain ⟨d, a, hdst, ha, -, hsup, hbal, rfl⟩ := mintTo_returns h
  obtain ⟨hdid, hds, -⟩ := hs.account _ d hdst
  obtain ⟨a', ha', hid, htrim⟩ := hs.asset_of_account hdst
  rw [htrim, ha'] at ha
  cases ha
  obtain ⟨-, -, hst⟩ := hs.asset _ a ha'
  rw [← hid] at ha'
  -- the asset is written first, which leaves the account as it was
  have hdst' : accountIn (tx.restaged (assetKey a.id) (some (Rlp.encode (assetValue
      { a with supply := a.supply + amount })))).lookup d.id = some d := by
    rw [accountIn_restaged_of_ne (by simp), hdid, hdst]
  have h1 := Shift.restaged_asset ha' (hst.withSupply hsup)
  have h2 := Shift.restaged_account hdst' (hds.withBalance hbal)
  refine ⟨d, hdst, (h1.trans h2).of_eq (fun j => ?_) fun i => ?_⟩
  · simp only [Pi.add_apply, Pi.zero_apply, hdid]
    split_ifs <;> omega
  · simp only [Pi.add_apply, Pi.zero_apply, hid]
    split_ifs <;> omega

theorem Shift.burn {auth : Address} {source : String} {amount : Nat} {u : Unit}
    (hs : Sound tx.lookup) (h : Returns (Bank.burn auth source amount) tx u tx') :
    ∃ s, accountIn tx.lookup (Text.trim source) = some s ∧
      Shift tx.lookup tx'.lookup (fun j => if j = Text.trim source then -(amount : ℤ) else 0)
        (fun i => if i = s.asset then -(amount : ℤ) else 0) := by
  obtain ⟨s, a, hsrc, -, hle, ha, rfl⟩ := Bank.burn_returns h
  -- the supply covers what the account holds, so the subtraction is exact
  have hcover := hs.burn_guard hsrc hle ha
  obtain ⟨hsid, hss, -⟩ := hs.account _ s hsrc
  obtain ⟨a', ha', hid, htrim⟩ := hs.asset_of_account hsrc
  rw [htrim, ha'] at ha
  cases ha
  obtain ⟨-, -, hst⟩ := hs.asset _ a ha'
  rw [← hid] at ha'
  have hsrc' : accountIn (tx.restaged (assetKey a.id) (some (Rlp.encode (assetValue
      { a with supply := a.supply - amount })))).lookup s.id = some s := by
    rw [accountIn_restaged_of_ne (by simp), hsid, hsrc]
  have h1 := Shift.restaged_asset ha' (hst.retire amount)
  have h2 := Shift.restaged_account hsrc' (hss.debit amount)
  refine ⟨s, hsrc, (h1.trans h2).of_eq (fun j => ?_) fun i => ?_⟩
  · simp only [Pi.add_apply, Pi.zero_apply, hsid]
    push_cast [Nat.cast_sub hle]
    split_ifs <;> omega
  · simp only [Pi.add_apply, Pi.zero_apply, hid]
    push_cast [Nat.cast_sub hcover]
    split_ifs <;> omega

end

end Bank

namespace Engine

section
variable {tx tx' : Tx}

/-- What a leg of a conversion moves into the account `j`. -/
def LegTransfer.delta (j : String) (t : LegTransfer) : ℤ := transferDelta t.source t.destination t.amount j

/-- The legs of a mint, transfers one after another, move every balance by
what each leg moves into its account. -/
theorem Shift.transferLegs {requester : Address} {legs : List LegTransfer} {u : Unit} (hs : Bank.Sound tx.lookup)
    (h : Returns (transferLegs requester legs) tx u tx') :
    Shift tx.lookup tx'.lookup (fun j => (legs.map (LegTransfer.delta j)).sum) 0 := by
  induction legs generalizing tx with
  | nil =>
    obtain ⟨-, rfl⟩ := Returns.pure h
    exact (Shift.refl _).of_eq (fun _ => by simp) fun _ => rfl
  | cons t rest ih =>
    unfold transferLegs at h
    obtain ⟨t1, h1, h2⟩ := Returns.seq h
    have h1 := bankStep_returns.mp h1
    refine ((Shift.transfer hs h1).trans (ih (hs.transfer h1) h2)).of_eq (fun j => ?_) fun _ => rfl
    simp [LegTransfer.delta]

end

end Engine

end Issuance
