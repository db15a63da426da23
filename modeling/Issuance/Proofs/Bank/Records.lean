import Mathlib
import Issuance.Proofs.Store.Records
import Issuance.Proofs.Store.Keys
import Issuance.Proofs.Text.Trim
/-! # Assets and accounts as stored

`assetIn L i` and `accountIn L i` are the records a reader finds under `i`
in the view `L`. A record that fits its stored widths (`Storable`) reads
back as written, and writing it replaces only its own record. -/
namespace Issuance

open Store Rlp

/-- An asset that its stored form holds exactly. -/
structure Asset.Storable (a : Asset) : Prop where
  id : Text.Short a.id
  decimals : a.decimals < 2 ^ 16
  supply : a.supply < Amount.bound

/-- An account that its stored form holds exactly. -/
structure Account.Storable (a : Account) : Prop where
  id : Text.Short a.id
  asset : Text.Short a.asset
  balance : a.balance < Amount.bound

/-- A record keeps fitting when only its amount changes to one below the
bound, in particular when the amount falls. -/
theorem Asset.Storable.withSupply {a : Asset} {n : Nat} (h : a.Storable) (hn : n < Amount.bound) :
    ({ a with supply := n } : Asset).Storable := ⟨h.id, h.decimals, hn⟩

theorem Asset.Storable.retire {a : Asset} (h : a.Storable) (n : Nat) :
    ({ a with supply := a.supply - n } : Asset).Storable :=
  h.withSupply (lt_of_le_of_lt (Nat.sub_le _ _) h.supply)

theorem Account.Storable.withBalance {a : Account} {b : Nat} (h : a.Storable) (hb : b < Amount.bound) :
    ({ a with balance := b } : Account).Storable := ⟨h.id, h.asset, hb⟩

theorem Account.Storable.debit {a : Account} (h : a.Storable) (n : Nat) :
    ({ a with balance := a.balance - n } : Account).Storable :=
  h.withBalance (lt_of_le_of_lt (Nat.sub_le _ _) h.balance)

theorem Amount.bound_eq : Amount.bound = 2 ^ 64 := rfl

namespace Bank

/-- The asset under an identifier in the view `L`. -/
def assetIn (L : Bytes → Option Bytes) (i : String) : Option Asset :=
  recordAt assetShape assetOfValue L (assetKey i)

/-- The account under an identifier in the view `L`. -/
def accountIn (L : Bytes → Option Bytes) (i : String) : Option Account :=
  recordAt accountShape accountOfValue L (accountKey i)

@[simp] theorem addressOf_bytes (a : Address) : addressOf a.bytes = a := by
  simp [addressOf, Address.ofBytes?, a.size]

@[simp] theorem assetOfValue_assetValue (a : Asset) : assetOfValue (assetValue a) = a := by
  simp [assetOfValue, assetValue]

@[simp] theorem accountOfValue_accountValue (a : Account) : accountOfValue (accountValue a) = a := by
  simp [accountOfValue, accountValue]

theorem length_ofString_lt {s : String} (h : Text.Short s) : (Bytes.ofString s).length < 2 ^ 64 :=
  lt_of_lt_of_le h (by norm_num)

theorem fits_assetValue {a : Asset} (h : a.Storable) : Fits assetShape (assetValue a) := by
  have hi : (Bytes.ofString a.id).length < 2 ^ 32 := h.id
  have hs : a.supply < 2 ^ 64 := h.supply
  refine fits_record rfl ?_ ?_
  · simp only [List.zip_cons_cons, List.zip_nil_right, List.forall_mem_cons,
      List.not_mem_nil, IsEmpty.forall_iff, implies_true, and_true]
    exact ⟨fits_text _ (length_ofString_lt h.id), fits_uint16 h.decimals, .fixed a.mintAuthority.size (by decide),
      fits_uint64 hs⟩
  · have h1 := length_encodeBytes_le (b := Bytes.ofString a.id) (length_ofString_lt h.id)
    have h2 := length_encode_num_le (n := a.decimals) (by have := h.decimals; omega)
    have h3 := length_encodeBytes_le (b := a.mintAuthority.bytes) (by rw [a.mintAuthority.size]; norm_num)
    have h4 := length_encode_num_le hs
    simp only [encodeAll, List.length_append, List.length_nil, encode] at h2 h4 ⊢
    rw [a.mintAuthority.size] at h3
    omega

theorem fits_accountValue {a : Account} (h : a.Storable) : Fits accountShape (accountValue a) := by
  have hi : (Bytes.ofString a.id).length < 2 ^ 32 := h.id
  have ha : (Bytes.ofString a.asset).length < 2 ^ 32 := h.asset
  have hb : a.balance < 2 ^ 64 := h.balance
  refine fits_record rfl ?_ ?_
  · simp only [List.zip_cons_cons, List.zip_nil_right, List.forall_mem_cons,
      List.not_mem_nil, IsEmpty.forall_iff, implies_true, and_true]
    exact ⟨fits_text _ (length_ofString_lt h.id), .fixed a.owner.size (by decide),
      fits_text _ (length_ofString_lt h.asset), fits_uint64 hb⟩
  · have h1 := length_encodeBytes_le (b := Bytes.ofString a.id) (length_ofString_lt h.id)
    have h2 := length_encodeBytes_le (b := a.owner.bytes) (by rw [a.owner.size]; norm_num)
    have h3 := length_encodeBytes_le (b := Bytes.ofString a.asset) (length_ofString_lt h.asset)
    have h4 := length_encode_num_le hb
    simp only [encodeAll, List.length_append, List.length_nil, encode] at h4 ⊢
    rw [a.owner.size] at h2
    omega

/-! ## Reading and writing the views -/

section
variable {tx : Tx} {i : String} {k : Bytes} {v : Option Bytes}

theorem assetIn_restaged_of_ne (h : assetKey i ≠ k) : assetIn (tx.restaged k v).lookup i = assetIn tx.lookup i :=
  recordAt_restaged_of_ne h v

theorem accountIn_restaged_of_ne (h : accountKey i ≠ k) :
    accountIn (tx.restaged k v).lookup i = accountIn tx.lookup i :=
  recordAt_restaged_of_ne h v

theorem assetIn_restaged_asset {a : Asset} (h : a.Storable) (j i : String) :
    assetIn (tx.restaged (assetKey j) (some (encode (assetValue a)))).lookup i =
      if i = j then some a else assetIn tx.lookup i := by
  split
  · rename_i hi
    subst hi
    rw [assetIn, recordAt_restaged_encode (fits_assetValue h), assetOfValue_assetValue]
  · rename_i hi
    exact assetIn_restaged_of_ne (by simpa using hi)

theorem accountIn_restaged_account {a : Account} (h : a.Storable) (j i : String) :
    accountIn (tx.restaged (accountKey j) (some (encode (accountValue a)))).lookup i =
      if i = j then some a else accountIn tx.lookup i := by
  split
  · rename_i hi
    subst hi
    rw [accountIn, recordAt_restaged_encode (fits_accountValue h), accountOfValue_accountValue]
  · rename_i hi
    exact accountIn_restaged_of_ne (by simpa using hi)

end

end Bank

end Issuance
