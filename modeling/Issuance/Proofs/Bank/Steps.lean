import Mathlib
import Issuance.Proofs.Bank.Records
/-! # What each bank operation does

One lemma per bank operation gives the records a successful run found, the
guards that passed and the writes it staged, in order. -/
namespace Issuance.Bank

open Store Txn

variable {tx tx' : Tx}

theorem returns_io {α : Type} {m : Txn α} {a : α} : Returns (io m) tx a tx' ↔ Returns m tx a tx' :=
  returns_mapFault

theorem asset_returns {id : String} {a : Asset} (h : Returns (Bank.asset id) tx a tx') :
    tx' = tx ∧ assetIn tx.lookup (Text.trim id) = some a := by
  unfold Bank.asset at h
  obtain ⟨r, t1, hr, h1⟩ := Returns.bind h
  obtain ⟨rfl, hrec⟩ := (returns_io.mp hr).read_record assetOfValue
  split at h1
  · obtain ⟨rfl, rfl⟩ := Returns.pure h1
    exact ⟨rfl, hrec.symm⟩
  · cases h1

theorem account_returns {id : String} {a : Account} (h : Returns (Bank.account id) tx a tx') :
    tx' = tx ∧ accountIn tx.lookup (Text.trim id) = some a := by
  unfold Bank.account at h
  obtain ⟨-, h0⟩ := Returns.guard h
  obtain ⟨r, t1, hr, h1⟩ := Returns.bind h0
  obtain ⟨rfl, hrec⟩ := (returns_io.mp hr).read_record accountOfValue
  split at h1
  · obtain ⟨rfl, rfl⟩ := Returns.pure h1
    exact ⟨rfl, hrec.symm⟩
  · cases h1

theorem putAsset_returns {a : Asset} {u : Unit} (h : Returns (putAsset a) tx u tx') :
    tx' = tx.restaged (assetKey a.id) (some (Rlp.encode (assetValue a))) :=
  (returns_io.mp h).write.2.2

theorem putAccount_returns {a : Account} {u : Unit} (h : Returns (putAccount a) tx u tx') :
    tx' = tx.restaged (accountKey a.id) (some (Rlp.encode (accountValue a))) :=
  (returns_io.mp h).write.2.2

theorem has_returns {k : Bytes} {b : Bool} (h : Returns (io (Txn.has k)) tx b tx') :
    tx' = tx ∧ b = (found tx k).isSome := by
  obtain ⟨-, h1, h2⟩ := (returns_io.mp h).has
  exact ⟨h1, h2⟩

theorem createAsset_returns {id : String} {decimals : Nat} {authority : Address} {a : Asset}
    (h : Returns (createAsset id decimals authority) tx a tx') :
    Text.trim id ≠ "" ∧ found tx (assetKey (Text.trim id)) = none ∧ a = ⟨Text.trim id, decimals, authority, 0⟩ ∧
      tx' = tx.restaged (assetKey a.id) (some (Rlp.encode (assetValue a))) := by
  unfold Bank.createAsset at h
  obtain ⟨he, h1⟩ := Returns.guard h
  obtain ⟨b, t1, hb, h2⟩ := Returns.bind h1
  obtain ⟨rfl, rfl⟩ := has_returns hb
  obtain ⟨hx, h3⟩ := Returns.guard h2
  obtain ⟨t2, h4, h5⟩ := Returns.seq h3
  obtain ⟨rfl, rfl⟩ := Returns.pure h5
  refine ⟨by simpa using he, by simpa using hx, rfl, putAsset_returns h4⟩

theorem openAccount_returns {id : String} {owner : Address} {assetId fresh : String} {a : Account}
    (h : Returns (openAccount id owner assetId fresh) tx a tx') :
    (assetIn tx.lookup (Text.trim assetId)).isSome ∧
      a = ⟨if (Text.trim id).isEmpty then fresh else Text.trim id, owner, Text.trim assetId, 0⟩ ∧
      found tx (accountKey a.id) = none ∧
      tx' = tx.restaged (accountKey a.id) (some (Rlp.encode (accountValue a))) := by
  unfold Bank.openAccount at h
  obtain ⟨x, t1, hx, h1⟩ := Returns.bind h
  obtain ⟨rfl, hx⟩ := asset_returns hx
  obtain ⟨b, t2, hb, h2⟩ := Returns.bind h1
  obtain ⟨rfl, rfl⟩ := has_returns hb
  obtain ⟨hn, h3⟩ := Returns.guard h2
  obtain ⟨t3, h4, h5⟩ := Returns.seq h3
  obtain ⟨rfl, rfl⟩ := Returns.pure h5
  exact ⟨by simp [hx], rfl, by simpa using hn, putAccount_returns h4⟩

/-- A transfer checks owner, asset and funds, then writes the source less
`amount` and the target plus `amount`, or nothing for a null move. -/
theorem transfer_returns {auth : Address} {source target : String} {amount : Nat} {u : Unit}
    (h : Returns (transfer auth source target amount) tx u tx') :
    ∃ s d, accountIn tx.lookup (Text.trim source) = some s ∧ accountIn tx.lookup (Text.trim target) = some d ∧
      s.owner = auth ∧ s.asset = d.asset ∧ amount ≤ s.balance ∧
      ((s.id = d.id ∨ amount = 0) ∧ tx' = tx ∨
        s.id ≠ d.id ∧ amount ≠ 0 ∧ d.balance + amount < Amount.bound ∧
        tx' = Tx.restaged (tx.restaged (accountKey s.id) (some (Rlp.encode (accountValue { s with balance := s.balance - amount }))))
          (accountKey d.id) (some (Rlp.encode (accountValue { d with balance := d.balance + amount })))) := by
  unfold Bank.transfer at h
  obtain ⟨s, t1, hs, h1⟩ := Returns.bind h
  obtain ⟨rfl, hs⟩ := account_returns hs
  obtain ⟨d, t2, hd, h2⟩ := Returns.bind h1
  obtain ⟨rfl, hd⟩ := account_returns hd
  obtain ⟨ho, h3⟩ := Returns.guard h2
  obtain ⟨ha, h4⟩ := Returns.guard h3
  obtain ⟨hb, h5⟩ := Returns.guard h4
  refine ⟨s, d, hs, hd, by simpa using ho, by simpa using ha, by omega, ?_⟩
  split at h5
  · rename_i hz
    exact .inl ⟨by simpa using hz, (Returns.pure h5).2⟩
  · rename_i hz
    obtain ⟨hv, h6⟩ := Returns.guard h5
    obtain ⟨t3, h7, h8⟩ := Returns.seq h6
    simp only [Bool.or_eq_true, decide_eq_true_eq, not_or] at hz
    refine .inr ⟨hz.1, hz.2, by omega, ?_⟩
    rw [putAccount_returns h8, putAccount_returns h7]

/-- Minting checks the account, asset, authority and both sums, then adds
`amount` to the supply and to the balance. -/
theorem mintTo_returns {auth : Address} {target : String} {amount : Nat} {u : Unit}
    (h : Returns (mintTo auth target amount) tx u tx') :
    ∃ d a, accountIn tx.lookup (Text.trim target) = some d ∧ assetIn tx.lookup (Text.trim d.asset) = some a ∧
      a.mintAuthority = auth ∧ a.supply + amount < Amount.bound ∧ d.balance + amount < Amount.bound ∧
      tx' = Tx.restaged (tx.restaged (assetKey a.id) (some (Rlp.encode (assetValue { a with supply := a.supply + amount }))))
        (accountKey d.id) (some (Rlp.encode (accountValue { d with balance := d.balance + amount }))) := by
  unfold Bank.mintTo at h
  obtain ⟨d, t1, hd, h1⟩ := Returns.bind h
  obtain ⟨rfl, hd⟩ := account_returns hd
  obtain ⟨a, t2, ha, h2⟩ := Returns.bind h1
  obtain ⟨rfl, ha⟩ := asset_returns ha
  obtain ⟨hm, h3⟩ := Returns.guard h2
  obtain ⟨hv, h4⟩ := Returns.guard h3
  obtain ⟨t3, h5, h6⟩ := Returns.seq h4
  simp only [Bool.or_eq_true, decide_eq_true_eq, not_or, not_le] at hv
  refine ⟨d, a, hd, ha, by simpa using hm, hv.1, hv.2, ?_⟩
  rw [putAccount_returns h6, putAsset_returns h5]

theorem burn_returns {auth : Address} {source : String} {amount : Nat} {u : Unit}
    (h : Returns (burn auth source amount) tx u tx') :
    ∃ s a, accountIn tx.lookup (Text.trim source) = some s ∧ s.owner = auth ∧ amount ≤ s.balance ∧
      assetIn tx.lookup (Text.trim s.asset) = some a ∧
      tx' = Tx.restaged (tx.restaged (assetKey a.id) (some (Rlp.encode (assetValue { a with supply := a.supply - amount }))))
        (accountKey s.id) (some (Rlp.encode (accountValue { s with balance := s.balance - amount }))) := by
  unfold Bank.burn at h
  obtain ⟨s, t1, hs, h1⟩ := Returns.bind h
  obtain ⟨rfl, hs⟩ := account_returns hs
  obtain ⟨ho, h2⟩ := Returns.guard h1
  obtain ⟨hb, h3⟩ := Returns.guard h2
  obtain ⟨a, t2, ha, h4⟩ := Returns.bind h3
  obtain ⟨rfl, ha⟩ := asset_returns ha
  obtain ⟨t3, h5, h6⟩ := Returns.seq h4
  refine ⟨s, a, hs, by simpa using ho, by omega, ha, ?_⟩
  rw [putAccount_returns h6, putAsset_returns h5]

theorem setMintAuthority_returns {current next : Address} {assetId : String} {u : Unit}
    (h : Returns (setMintAuthority current assetId next) tx u tx') :
    ∃ a, assetIn tx.lookup (Text.trim assetId) = some a ∧ a.mintAuthority = current ∧
      tx' = tx.restaged (assetKey a.id) (some (Rlp.encode (assetValue { a with mintAuthority := next }))) := by
  unfold Bank.setMintAuthority at h
  obtain ⟨a, t1, ha, h1⟩ := Returns.bind h
  obtain ⟨rfl, ha⟩ := asset_returns ha
  obtain ⟨hm, h2⟩ := Returns.guard h1
  exact ⟨a, ha, by simpa using hm, putAsset_returns h2⟩

/-! ## Where the bank writes -/

/-- The keys of the bank's records: assets and accounts. -/
def IsKey (k : Bytes) : Prop := (∃ i, k = assetKey i) ∨ ∃ j, k = accountKey j

theorem isKey_asset (i : String) : IsKey (assetKey i) := .inl ⟨i, rfl⟩

theorem isKey_account (j : String) : IsKey (accountKey j) := .inr ⟨j, rfl⟩

@[simp] theorem not_isKey_recordKey (kind : Kind) (id : ChannelId) : ¬ IsKey (Channel.recordKey kind id) := by
  rintro (⟨i, h⟩ | ⟨j, h⟩) <;> simp at h

@[simp] theorem not_isKey_indexKey (kind : Kind) : ¬ IsKey (Channel.indexKey kind) := by
  rintro (⟨i, h⟩ | ⟨j, h⟩)
  · exact assetKey_ne_indexKey i kind h.symm
  · exact accountKey_ne_indexKey j kind h.symm

@[simp] theorem not_isKey_appConfigKey : ¬ IsKey Channel.appConfigKey := by
  rintro (⟨i, h⟩ | ⟨j, h⟩)
  · exact assetKey_ne_appConfigKey i h.symm
  · exact accountKey_ne_appConfigKey j h.symm

@[simp] theorem not_isKey_feedKey (i : String) : ¬ IsKey (Feed.key i) := by
  rintro (⟨a, h⟩ | ⟨j, h⟩)
  · exact assetKey_ne_feedKey a i h.symm
  · exact accountKey_ne_feedKey j i h.symm

theorem transfer_stages {auth : Address} {source target : String} {amount : Nat} {u : Unit}
    (h : Returns (transfer auth source target amount) tx u tx') : tx.Stages (fun k => ∃ j, k = accountKey j) tx' := by
  obtain ⟨s, d, -, -, -, -, -, ⟨-, rfl⟩ | ⟨-, -, -, rfl⟩⟩ := transfer_returns h
  · exact .refl
  · exact (Tx.Stages.restaged ⟨_, rfl⟩ _).trans (Tx.Stages.restaged ⟨_, rfl⟩ _)

theorem mintTo_stages {auth : Address} {target : String} {amount : Nat} {u : Unit}
    (h : Returns (mintTo auth target amount) tx u tx') : tx.Stages IsKey tx' := by
  obtain ⟨d, a, -, -, -, -, -, rfl⟩ := mintTo_returns h
  exact (Tx.Stages.restaged (isKey_asset _) _).trans (Tx.Stages.restaged (isKey_account _) _)

theorem burn_stages {auth : Address} {source : String} {amount : Nat} {u : Unit}
    (h : Returns (burn auth source amount) tx u tx') : tx.Stages IsKey tx' := by
  obtain ⟨s, a, -, -, -, -, rfl⟩ := burn_returns h
  exact (Tx.Stages.restaged (isKey_asset _) _).trans (Tx.Stages.restaged (isKey_account _) _)

theorem createAsset_stages {id : String} {decimals : Nat} {authority : Address} {a : Asset}
    (h : Returns (createAsset id decimals authority) tx a tx') : tx.Stages IsKey tx' := by
  obtain ⟨-, -, -, rfl⟩ := createAsset_returns h
  exact Tx.Stages.restaged (isKey_asset _) _

theorem openAccount_stages {id : String} {owner : Address} {assetId fresh : String} {a : Account}
    (h : Returns (openAccount id owner assetId fresh) tx a tx') : tx.Stages IsKey tx' := by
  obtain ⟨-, -, -, rfl⟩ := openAccount_returns h
  exact Tx.Stages.restaged (isKey_account _) _

theorem setMintAuthority_stages {current next : Address} {assetId : String} {u : Unit}
    (h : Returns (setMintAuthority current assetId next) tx u tx') : tx.Stages IsKey tx' := by
  obtain ⟨a, -, -, rfl⟩ := setMintAuthority_returns h
  exact Tx.Stages.restaged (isKey_asset _) _

end Issuance.Bank
