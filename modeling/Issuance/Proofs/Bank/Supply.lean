import Mathlib
import Issuance.Proofs.Bank.Steps
/-! # The bank's supply invariant

`Sound L`: records sit under their own identifiers and fit, accounts name
existing assets, and each supply is the `finsum` of its balances. Every
bank operation keeps it, so the overflow and underflow guards never fire. -/
namespace Issuance

open Store Txn

/-! ## Finite sums changed at one point -/

section
variable {α : Type}

theorem finsum_add_eq_of_eq_off {M : Type} [AddCommMonoid M] {f g : α → M} (j : α) (hf : f.HasFiniteSupport)
    (hg : g.HasFiniteSupport) (h : ∀ i, i ≠ j → f i = g i) : ∑ᶠ i, f i + g j = ∑ᶠ i, g i + f j := by
  rw [← add_finsum_cond_ne j hf, ← add_finsum_cond_ne j hg]
  have hrest : ∑ᶠ (i) (_ : i ≠ j), f i = ∑ᶠ (i) (_ : i ≠ j), g i :=
    finsum_congr fun i => finsum_congr fun hi => h i hi
  rw [hrest]
  ac_rfl

variable {f : α → ℕ}

theorem add_le_finsum (hf : f.HasFiniteSupport) {i j : α} (h : i ≠ j) : f i + f j ≤ ∑ᶠ k, f k := by
  rw [← add_finsum_cond_ne i hf]
  have hrest : f j ≤ ∑ᶠ (k) (_ : k ≠ i), f k := by
    have hg : (fun k => ∑ᶠ (_ : k ≠ i), f k).HasFiniteSupport := by
      refine hf.subset fun k hk => ?_
      by_cases hki : k = i <;> simp_all
    have := single_le_finsum j hg (fun _ => Nat.zero_le _)
    simpa [Ne.symm h] using this
  omega

end

theorem Store.Tx.finite_lookup (tx : Tx) : {k | tx.lookup k ≠ none}.Finite := by
  refine (tx.staged.map Prod.fst ++ tx.db.store.entries.map Prod.fst).toFinset.finite_toSet.subset ?_
  intro k hk
  simp only [Set.mem_ofPred_eq, Tx.lookup, Tx.stagedAt] at hk
  simp only [List.coe_toFinset, Set.mem_ofPred_eq, List.mem_append, List.mem_map]
  cases hs : tx.staged.find? (·.1 == k) with
  | some e =>
    have he := List.find?_some hs
    exact .inl ⟨e, List.mem_of_find?_eq_some hs, by simpa using he⟩
  | none =>
    rw [hs] at hk
    simp only [Option.map_none, Store.Store.get?] at hk
    cases he : tx.db.store.entries.find? (·.1 == k) with
    | none => simp [he] at hk
    | some e =>
      have hk' := List.find?_some he
      exact .inr ⟨e, List.mem_of_find?_eq_some he, by simpa using hk'⟩

namespace Bank

/-- What account `j` holds of asset `a` in the view `L`. -/
def heldIn (L : Bytes → Option Bytes) (a j : String) : ℕ :=
  match accountIn L j with
  | some x => if x.asset = a then x.balance else 0
  | none => 0

/-- All that the accounts of the view `L` hold of asset `a`. -/
noncomputable def held (L : Bytes → Option Bytes) (a : String) : ℕ := ∑ᶠ j, heldIn L a j

/-- The bank's invariant over a view of the store. -/
structure Sound (L : Bytes → Option Bytes) : Prop where
  asset : ∀ i a, assetIn L i = some a → a.id = i ∧ Text.trim i = i ∧ a.Storable
  account : ∀ j x, accountIn L j = some x → x.id = j ∧ x.Storable ∧ (assetIn L x.asset).isSome
  supply : ∀ i a, assetIn L i = some a → a.supply = held L i

theorem heldIn_of_some {L : Bytes → Option Bytes} {j : String} {x : Account} (h : accountIn L j = some x)
    (a : String) : heldIn L a j = if x.asset = a then x.balance else 0 := by
  simp [heldIn, h]

theorem heldIn_of_none {L : Bytes → Option Bytes} {j : String} (h : accountIn L j = none) (a : String) :
    heldIn L a j = 0 := by
  simp [heldIn, h]

theorem finite_heldIn (tx : Tx) (a : String) : (heldIn tx.lookup a).HasFiniteSupport := by
  refine ((Tx.finite_lookup tx).preimage (fun i _ j _ h => (accountKey_inj i j).mp h)).subset ?_
  intro j hj
  simp only [Function.mem_support, Set.mem_preimage, Set.mem_ofPred_eq] at hj ⊢
  intro hn
  exact hj (heldIn_of_none (by simp [accountIn, recordAt, hn]) a)

section
variable {tx tx' : Tx}

theorem Sound.congr {L L' : Bytes → Option Bytes} (hs : Sound L) (ha : ∀ i, assetIn L' i = assetIn L i)
    (hx : ∀ j, accountIn L' j = accountIn L j) : Sound L' := by
  have hh : ∀ i, held L' i = held L i := fun i => finsum_congr fun j => by simp [heldIn, hx j]
  refine ⟨fun i a h => ?_, fun j x h => ?_, fun i a h => ?_⟩
  · exact hs.asset i a (by rwa [← ha i])
  · rw [hx j] at h
    obtain ⟨h1, h2, h3⟩ := hs.account j x h
    exact ⟨h1, h2, by rwa [ha]⟩
  · rw [hh]
    exact hs.supply i a (by rwa [← ha i])

theorem Sound.restaged {k : Bytes} (hs : Sound tx.lookup) (ha : ∀ i, assetKey i ≠ k) (hx : ∀ j, accountKey j ≠ k)
    (v : Option Bytes) : Sound (tx.restaged k v).lookup :=
  hs.congr (fun i => assetIn_restaged_of_ne (ha i)) (fun j => accountIn_restaged_of_ne (hx j))

/-- Writing an account changes what the accounts hold by what the new record
holds less what the old one held. -/
theorem held_restaged_account (tx : Tx) {x : Account} (hx : x.Storable) (j a : String) :
    held (tx.restaged (accountKey j) (some (Rlp.encode (accountValue x)))).lookup a + heldIn tx.lookup a j =
      held tx.lookup a + if x.asset = a then x.balance else 0 := by
  have hnew : heldIn (tx.restaged (accountKey j) (some (Rlp.encode (accountValue x)))).lookup a j =
      if x.asset = a then x.balance else 0 :=
    heldIn_of_some (by rw [accountIn_restaged_account hx, if_pos rfl]) a
  rw [← hnew, held, held]
  exact finsum_add_eq_of_eq_off j (finite_heldIn _ a) (finite_heldIn _ a)
    (fun i hi => by simp [heldIn, accountIn_restaged_account hx, hi])

theorem held_restaged_asset (j : String) (v : Option Bytes) (a : String) :
    held (tx.restaged (assetKey j) v).lookup a = held tx.lookup a :=
  finsum_congr fun i => by simp [heldIn, accountIn_restaged_of_ne]

theorem balance_le_held {L : Bytes → Option Bytes} {j : String} {x : Account} (h : accountIn L j = some x)
    (hf : (heldIn L x.asset).HasFiniteSupport) : x.balance ≤ held L x.asset := by
  have := single_le_finsum j hf (fun _ => Nat.zero_le _)
  rw [heldIn_of_some h, if_pos rfl] at this
  exact this

/-! ## Each bank operation keeps the invariant -/

theorem Sound.asset_of_account {L : Bytes → Option Bytes} (hs : Sound L) {j : String} {x : Account}
    (h : accountIn L j = some x) : ∃ a, assetIn L x.asset = some a ∧ a.id = x.asset ∧ Text.trim x.asset = x.asset := by
  obtain ⟨-, -, hx⟩ := hs.account j x h
  obtain ⟨a, ha⟩ := Option.isSome_iff_exists.mp hx
  obtain ⟨h1, h2, -⟩ := hs.asset _ a ha
  exact ⟨a, ha, h1, h2⟩

theorem Sound.transfer {auth : Address} {source target : String} {amount : Nat} {u : Unit}
    (hs : Sound tx.lookup) (h : Returns (Bank.transfer auth source target amount) tx u tx') : Sound tx'.lookup := by
  obtain ⟨s, d, hsrc, hdst, -, hasset, hle, ⟨-, rfl⟩ | ⟨hne, -, hv, rfl⟩⟩ := transfer_returns h
  · exact hs
  obtain ⟨hsid, hss, -⟩ := hs.account _ s hsrc
  obtain ⟨hdid, hds, -⟩ := hs.account _ d hdst
  rw [← hsid] at hsrc
  rw [← hdid] at hdst
  have hs' := hss.debit amount
  have hd' := hds.withBalance hv
  -- after both writes: the target, then the source, then what was there
  have hacc : ∀ i, accountIn (Tx.restaged (tx.restaged (accountKey s.id)
      (some (Rlp.encode (accountValue { s with balance := s.balance - amount })))) (accountKey d.id)
      (some (Rlp.encode (accountValue { d with balance := d.balance + amount })))).lookup i =
      if i = d.id then some { d with balance := d.balance + amount }
      else if i = s.id then some { s with balance := s.balance - amount } else accountIn tx.lookup i := by
    intro i
    rw [accountIn_restaged_account hd', accountIn_restaged_account hs']
  have hass : ∀ i, assetIn (Tx.restaged (tx.restaged (accountKey s.id)
      (some (Rlp.encode (accountValue { s with balance := s.balance - amount })))) (accountKey d.id)
      (some (Rlp.encode (accountValue { d with balance := d.balance + amount })))).lookup i = assetIn tx.lookup i := by
    intro i
    rw [assetIn_restaged_of_ne (by simp), assetIn_restaged_of_ne (by simp)]
  refine ⟨fun i a ha => hs.asset i a (by rwa [← hass i]), fun j x hx => ?_, fun i a ha => ?_⟩
  · rw [hacc] at hx
    split_ifs at hx with h1 h2
    · cases hx
      exact ⟨h1.symm, hd', by rw [hass]; exact (hs.account _ d hdst).2.2⟩
    · cases hx
      exact ⟨h2.symm, hs', by rw [hass]; exact (hs.account _ s hsrc).2.2⟩
    · obtain ⟨h3, h4, h5⟩ := hs.account j x hx
      exact ⟨h3, h4, by rwa [hass]⟩
  · rw [hass] at ha
    rw [hs.supply i a ha]
    have e1 := held_restaged_account tx hs' s.id i
    have e2 := held_restaged_account
      (tx.restaged (accountKey s.id) (some (Rlp.encode (accountValue { s with balance := s.balance - amount }))))
      hd' d.id i
    rw [heldIn_of_some hsrc] at e1
    rw [heldIn_of_some (by rw [accountIn_restaged_account hs', if_neg (Ne.symm hne)]; exact hdst)] at e2
    have hsame : s.asset = i ↔ d.asset = i := by rw [hasset]
    simp only [hsame] at e1 e2
    split_ifs at e1 e2 <;> omega

/-- Writing one asset keeps the invariant when the record is storable, stands
under its own trimmed identifier, and has as supply what the accounts hold. -/
theorem Sound.restaged_asset (hs : Sound tx.lookup) {a : Asset} (ha : a.Storable) (htrim : Text.trim a.id = a.id)
    (hsup : a.supply = held tx.lookup a.id) :
    Sound (tx.restaged (assetKey a.id) (some (Rlp.encode (assetValue a)))).lookup := by
  have hacc : ∀ j, accountIn (tx.restaged (assetKey a.id) (some (Rlp.encode (assetValue a)))).lookup j =
      accountIn tx.lookup j := fun j => accountIn_restaged_of_ne (by simp)
  refine ⟨fun i b hb => ?_, fun j x hx => ?_, fun i b hb => ?_⟩
  · rw [assetIn_restaged_asset ha] at hb
    split_ifs at hb with h1
    · cases hb
      exact ⟨h1.symm, h1 ▸ htrim, ha⟩
    · exact hs.asset i b hb
  · rw [hacc] at hx
    obtain ⟨h1, h2, h3⟩ := hs.account j x hx
    refine ⟨h1, h2, ?_⟩
    rw [assetIn_restaged_asset ha]
    split_ifs <;> simp [h3]
  · rw [held_restaged_asset]
    rw [assetIn_restaged_asset ha] at hb
    split_ifs at hb with h1
    · cases hb
      rw [h1, hsup]
    · exact hs.supply i b hb

/-- Writing one account keeps the invariant when the record is storable, of
an asset that exists, and holds what the record it replaces held. -/
theorem Sound.restaged_account (hs : Sound tx.lookup) {x : Account} (hx : x.Storable)
    (hasset : (assetIn tx.lookup x.asset).isSome)
    (hsame : ∀ a, heldIn tx.lookup a x.id = if x.asset = a then x.balance else 0) :
    Sound (tx.restaged (accountKey x.id) (some (Rlp.encode (accountValue x)))).lookup := by
  have hass : ∀ i, assetIn (tx.restaged (accountKey x.id) (some (Rlp.encode (accountValue x)))).lookup i =
      assetIn tx.lookup i := fun i => assetIn_restaged_of_ne (by simp)
  refine ⟨fun i b hb => hs.asset i b (by rwa [← hass i]), fun j y hy => ?_, fun i b hb => ?_⟩
  · rw [accountIn_restaged_account hx] at hy
    split_ifs at hy with h1
    · cases hy
      exact ⟨h1.symm, hx, by rwa [hass]⟩
    · obtain ⟨h2, h3, h4⟩ := hs.account j y hy
      exact ⟨h2, h3, by rwa [hass]⟩
  · rw [hass] at hb
    have e := held_restaged_account tx hx x.id i
    rw [hsame] at e
    rw [hs.supply i b hb]
    omega

/-- Creating an asset keeps the invariant: no account can hold an asset that
did not exist, so the new asset's zero supply is what its accounts hold. -/
theorem Sound.createAsset {id : String} {decimals : Nat} {authority : Address} {a : Asset}
    (hs : Sound tx.lookup) (hid : Text.Short id) (hdec : decimals < 2 ^ 16)
    (h : Returns (Bank.createAsset id decimals authority) tx a tx') : Sound tx'.lookup := by
  obtain ⟨-, hnone, rfl, rfl⟩ := createAsset_returns h
  have hfree : assetIn tx.lookup (Text.trim id) = none := by
    simp only [assetIn, recordAt]
    exact congrArg (Option.bind · _) hnone
  refine hs.restaged_asset ⟨hid.trim, hdec, by simp [Amount.bound_eq]⟩ (Text.trim_trim id) ?_
  symm
  refine finsum_eq_zero_of_forall_eq_zero fun j => ?_
  cases hx : accountIn tx.lookup j with
  | none => exact heldIn_of_none hx _
  | some x =>
    rw [heldIn_of_some hx]
    split_ifs with hxa
    · obtain ⟨-, -, h3⟩ := hs.account j x hx
      rw [hxa, hfree] at h3
      cases h3
    · rfl

theorem Sound.openAccount {id assetId fresh : String} {owner : Address} {x : Account} (hs : Sound tx.lookup)
    (hid : Text.Short id) (hfresh : Text.Short fresh) (hasset : Text.Short assetId)
    (h : Returns (Bank.openAccount id owner assetId fresh) tx x tx') : Sound tx'.lookup := by
  obtain ⟨hexists, rfl, hnone, rfl⟩ := openAccount_returns h
  have hfree : accountIn tx.lookup (if (Text.trim id).isEmpty then fresh else Text.trim id) = none := by
    simp only [accountIn, recordAt]
    exact congrArg (Option.bind · _) hnone
  refine hs.restaged_account ⟨?_, hasset.trim, by simp [Amount.bound_eq]⟩ hexists
    (fun a => by rw [heldIn_of_none hfree]; simp)
  split
  · exact hfresh
  · exact hid.trim

theorem Sound.setMintAuthority {current next : Address} {assetId : String} {u : Unit} (hs : Sound tx.lookup)
    (h : Returns (Bank.setMintAuthority current assetId next) tx u tx') : Sound tx'.lookup := by
  obtain ⟨a, ha, -, rfl⟩ := setMintAuthority_returns h
  obtain ⟨hid, htrim, hst⟩ := hs.asset _ a ha
  have hsup := hs.supply _ a ha
  rw [← hid] at htrim hsup
  exact hs.restaged_asset (a := { a with mintAuthority := next }) ⟨hst.id, hst.decimals, hst.supply⟩ htrim hsup

/-- Writing an asset and then an account of it keeps the invariant when the
supply moves by exactly what the account's balance moves. -/
theorem Sound.restaged_supply (hs : Sound tx.lookup) {j : String} {x : Account} {a : Asset}
    (hx : accountIn tx.lookup j = some x) (ha : assetIn tx.lookup x.asset = some a) {balance supply : Nat}
    (hb : balance < Amount.bound) (hsup : supply < Amount.bound) (hmove : supply + x.balance = a.supply + balance) :
    Sound (Tx.restaged (tx.restaged (assetKey a.id) (some (Rlp.encode (assetValue { a with supply := supply }))))
      (accountKey x.id) (some (Rlp.encode (accountValue { x with balance := balance })))).lookup := by
  obtain ⟨hxid, hxs, -⟩ := hs.account j x hx
  subst hxid
  obtain ⟨haid, htrim, has⟩ := hs.asset _ a ha
  have hheld := hs.supply _ a ha
  have ha' := has.withSupply hsup
  have hx' := hxs.withBalance hb
  have hacc : ∀ i, accountIn (Tx.restaged (tx.restaged (assetKey a.id)
      (some (Rlp.encode (assetValue { a with supply := supply })))) (accountKey x.id)
      (some (Rlp.encode (accountValue { x with balance := balance })))).lookup i =
      if i = x.id then some { x with balance := balance } else accountIn tx.lookup i := by
    intro i
    rw [accountIn_restaged_account hx', accountIn_restaged_of_ne (by simp)]
  have hass : ∀ i, assetIn (Tx.restaged (tx.restaged (assetKey a.id)
      (some (Rlp.encode (assetValue { a with supply := supply })))) (accountKey x.id)
      (some (Rlp.encode (accountValue { x with balance := balance })))).lookup i =
      if i = a.id then some { a with supply := supply } else assetIn tx.lookup i := by
    intro i
    rw [assetIn_restaged_of_ne (by simp), assetIn_restaged_asset ha']
  refine ⟨fun i b hb => ?_, fun i y hy => ?_, fun i b hb => ?_⟩
  · rw [hass] at hb
    split_ifs at hb with h1
    · cases hb
      exact ⟨h1.symm, h1 ▸ haid ▸ htrim, ha'⟩
    · exact hs.asset i b hb
  · rw [hacc] at hy
    have hsome : ∀ c, (assetIn tx.lookup c).isSome → (assetIn (Tx.restaged (tx.restaged (assetKey a.id)
        (some (Rlp.encode (assetValue { a with supply := supply })))) (accountKey x.id)
        (some (Rlp.encode (accountValue { x with balance := balance })))).lookup c).isSome := by
      intro c hc
      rw [hass]
      split_ifs <;> simp [hc]
    split_ifs at hy with h1
    · cases hy
      exact ⟨h1.symm, hx', hsome _ (by simp [ha])⟩
    · obtain ⟨h2, h3, h4⟩ := hs.account i y hy
      exact ⟨h2, h3, hsome _ h4⟩
  · have e := held_restaged_account
      (tx.restaged (assetKey a.id) (some (Rlp.encode (assetValue { a with supply := supply })))) hx' x.id i
    rw [held_restaged_asset, heldIn_of_some (by rw [accountIn_restaged_of_ne (by simp)]; exact hx)] at e
    rw [hass] at hb
    split_ifs at hb with h1
    · cases hb
      rw [haid] at h1
      subst h1
      simp only [if_true] at e
      rw [hheld] at hmove
      simp only
      omega
    · rw [haid] at h1
      dsimp only at e
      simp only [if_neg (Ne.symm h1)] at e
      rw [hs.supply i b hb]
      omega

theorem Sound.mintTo {auth : Address} {target : String} {amount : Nat} {u : Unit} (hs : Sound tx.lookup)
    (h : Returns (Bank.mintTo auth target amount) tx u tx') : Sound tx'.lookup := by
  obtain ⟨d, a, hdst, ha, -, hsup, hbal, rfl⟩ := mintTo_returns h
  obtain ⟨-, -, -, htrim⟩ := hs.asset_of_account hdst
  rw [htrim] at ha
  exact hs.restaged_supply hdst ha hbal hsup (by omega)

/-- Burning keeps the invariant: the account held no more than the supply, so
the supply drops by the full amount, as the account's balance does. -/
theorem Sound.burn {auth : Address} {source : String} {amount : Nat} {u : Unit} (hs : Sound tx.lookup)
    (h : Returns (Bank.burn auth source amount) tx u tx') : Sound tx'.lookup := by
  obtain ⟨s, a, hsrc, -, hle, ha, rfl⟩ := burn_returns h
  obtain ⟨-, -, -, htrim⟩ := hs.asset_of_account hsrc
  rw [htrim] at ha
  have hheld := balance_le_held hsrc (finite_heldIn tx _)
  have hsupply := hs.supply _ a ha
  have hbound := (hs.asset _ a ha).2.2.supply
  have hbal := (hs.account _ s hsrc).2.1.balance
  exact hs.restaged_supply hsrc ha (by omega) (by omega) (by omega)

/-! ## The guards the invariant makes dead -/

/-- A burn that passed its funds check finds at least that much supply, so
the supply never has to stop at zero. -/
theorem Sound.burn_guard (hs : Sound tx.lookup) {j : String} {x : Account} {a : Asset} {amount : Nat}
    (hx : accountIn tx.lookup j = some x) (hle : amount ≤ x.balance) (ha : assetIn tx.lookup (Text.trim x.asset) = some a) :
    amount ≤ a.supply := by
  obtain ⟨-, -, -, htrim⟩ := hs.asset_of_account hx
  rw [htrim] at ha
  have := balance_le_held hx (finite_heldIn tx _)
  rw [hs.supply _ a ha]
  omega

/-- Two different accounts of one asset together hold no more than its
supply, which is below the largest amount: a transfer between them never
overflows the target. -/
theorem Sound.transfer_guard (hs : Sound tx.lookup) {j k : String} {x y : Account} {amount : Nat}
    (hx : accountIn tx.lookup j = some x) (hy : accountIn tx.lookup k = some y) (hid : x.id ≠ y.id)
    (hasset : x.asset = y.asset) (hle : amount ≤ x.balance) : y.balance + amount < Amount.bound := by
  obtain ⟨hxid, -, -⟩ := hs.account j x hx
  obtain ⟨hyid, -, -⟩ := hs.account k y hy
  obtain ⟨a, ha, -, -⟩ := hs.asset_of_account hx
  have hsum := add_le_finsum (finite_heldIn tx x.asset) (i := j) (j := k) (by rw [← hxid, ← hyid]; exact hid)
  rw [heldIn_of_some hx, heldIn_of_some hy, if_pos rfl, if_pos hasset.symm] at hsum
  have hsup := hs.supply _ a ha
  have hbound := (hs.asset _ a ha).2.2.supply
  rw [held] at hsup
  omega

end

end Bank

end Issuance
