import Mathlib
import Issuance.Bank
import Issuance.Channel.Ledger
import Issuance.Feed
import Issuance.Proofs.Text.Utf8Codec
/-! # Where records live

Each family of keys begins with bytes of its own, so a write to one family
never lands on another's key, and a key determines its identifier. -/
namespace Issuance

open Channel

theorem Bank.assetPrefix_eq : Bank.assetPrefix = [98, 97, 110, 107, 47, 97, 115, 115, 101, 116, 47] := by
  rw [Bank.assetPrefix, Bytes.ofString_eq]; decide

theorem Bank.accountPrefix_eq :
    Bank.accountPrefix = [98, 97, 110, 107, 47, 97, 99, 99, 111, 117, 110, 116, 47] := by
  rw [Bank.accountPrefix, Bytes.ofString_eq]; decide

theorem Channel.recordPrefix_eq (k : Kind) : recordPrefix k = match k with
    | .mint => [102, 97, 99, 116, 111, 114, 121, 47, 109, 105, 110, 116, 47]
    | .burn => [102, 97, 99, 116, 111, 114, 121, 47, 98, 117, 114, 110, 47] := by
  cases k <;> decide +kernel

theorem Channel.appConfigKey_eq :
    appConfigKey = [102, 97, 99, 116, 111, 114, 121, 47, 97, 112, 112, 45, 99, 111, 110, 102, 105, 103] := by
  rw [appConfigKey, Bytes.ofString_eq]; decide

theorem Channel.indexKey_eq (k : Kind) : indexKey k = match k with
    | .mint => [102, 97, 99, 116, 111, 114, 121, 47, 105, 110, 100, 101, 120, 47, 109, 105, 110, 116]
    | .burn => [102, 97, 99, 116, 111, 114, 121, 47, 105, 110, 100, 101, 120, 47, 98, 117, 114, 110] := by
  cases k <;> decide +kernel

theorem Feed.feedPrefix_eq : Feed.feedPrefix = [102, 101, 101, 100, 115, 47] := by
  rw [Feed.feedPrefix, Bytes.ofString_eq]; decide

section
variable (i j : String) (k k' : Kind) (id id' : ChannelId)

/-! ## Inside a family the key names one record -/

@[simp] theorem Bank.assetKey_inj : Bank.assetKey i = Bank.assetKey j ↔ i = j := by
  simp [Bank.assetKey, Bytes.ofString_injective.eq_iff]

@[simp] theorem Bank.accountKey_inj : Bank.accountKey i = Bank.accountKey j ↔ i = j := by
  simp [Bank.accountKey, Bytes.ofString_injective.eq_iff]

@[simp] theorem Channel.recordKey_inj : recordKey k id = recordKey k id' ↔ id = id' := by
  constructor
  · intro h
    obtain ⟨b, hb⟩ := id
    obtain ⟨b', hb'⟩ := id'
    obtain rfl : b = b' := List.append_cancel_left h
    rfl
  · rintro rfl
    rfl

/-! ## Bank keys are no other family's -/

@[simp] theorem Bank.assetKey_ne_accountKey : Bank.assetKey i ≠ Bank.accountKey j := by
  simp [Bank.assetKey, Bank.accountKey, Bank.assetPrefix_eq, Bank.accountPrefix_eq]

@[simp] theorem Bank.accountKey_ne_assetKey : Bank.accountKey i ≠ Bank.assetKey j :=
  (Bank.assetKey_ne_accountKey j i).symm

@[simp] theorem Bank.assetKey_ne_recordKey : Bank.assetKey i ≠ recordKey k id := by
  cases k <;> simp [Bank.assetKey, recordKey, Bank.assetPrefix_eq, recordPrefix_eq]

@[simp] theorem Bank.accountKey_ne_recordKey : Bank.accountKey i ≠ recordKey k id := by
  cases k <;> simp [Bank.accountKey, recordKey, Bank.accountPrefix_eq, recordPrefix_eq]

@[simp] theorem Bank.assetKey_ne_indexKey : Bank.assetKey i ≠ indexKey k := by
  cases k <;> simp [Bank.assetKey, Bank.assetPrefix_eq, indexKey_eq]

@[simp] theorem Bank.accountKey_ne_indexKey : Bank.accountKey i ≠ indexKey k := by
  cases k <;> simp [Bank.accountKey, Bank.accountPrefix_eq, indexKey_eq]

@[simp] theorem Bank.assetKey_ne_appConfigKey : Bank.assetKey i ≠ appConfigKey := by
  simp [Bank.assetKey, Bank.assetPrefix_eq, appConfigKey_eq]

@[simp] theorem Bank.accountKey_ne_appConfigKey : Bank.accountKey i ≠ appConfigKey := by
  simp [Bank.accountKey, Bank.accountPrefix_eq, appConfigKey_eq]

@[simp] theorem Bank.assetKey_ne_feedKey : Bank.assetKey i ≠ Feed.key j := by
  simp [Bank.assetKey, Feed.key, Bank.assetPrefix_eq, Feed.feedPrefix_eq]

@[simp] theorem Bank.accountKey_ne_feedKey : Bank.accountKey i ≠ Feed.key j := by
  simp [Bank.accountKey, Feed.key, Bank.accountPrefix_eq, Feed.feedPrefix_eq]

/-! ## Channel records are no other family's -/

@[simp] theorem Channel.recordKey_ne_assetKey : recordKey k id ≠ Bank.assetKey i :=
  (Bank.assetKey_ne_recordKey i k id).symm

@[simp] theorem Channel.recordKey_ne_accountKey : recordKey k id ≠ Bank.accountKey i :=
  (Bank.accountKey_ne_recordKey i k id).symm

@[simp] theorem Channel.indexKey_ne_assetKey : indexKey k ≠ Bank.assetKey i :=
  (Bank.assetKey_ne_indexKey i k).symm

@[simp] theorem Channel.recordKey_ne_indexKey : recordKey k id ≠ indexKey k' := by
  cases k <;> cases k' <;> simp [recordKey, recordPrefix_eq, indexKey_eq]

@[simp] theorem Channel.indexKey_ne_recordKey : indexKey k' ≠ recordKey k id :=
  (recordKey_ne_indexKey k k' id).symm

@[simp] theorem Channel.recordKey_ne_appConfigKey : recordKey k id ≠ appConfigKey := by
  cases k <;> simp [recordKey, recordPrefix_eq, appConfigKey_eq]

@[simp] theorem Channel.recordKey_ne_feedKey : recordKey k id ≠ Feed.key i := by
  cases k <;> simp [recordKey, recordPrefix_eq, Feed.key, Feed.feedPrefix_eq]

@[simp] theorem Channel.appConfigKey_ne_recordKey : appConfigKey ≠ recordKey k id :=
  (recordKey_ne_appConfigKey k id).symm

@[simp] theorem Feed.key_ne_recordKey : Feed.key i ≠ recordKey k id :=
  (recordKey_ne_feedKey i k id).symm

@[simp] theorem Channel.appConfigKey_ne_assetKey : appConfigKey ≠ Bank.assetKey i :=
  (Bank.assetKey_ne_appConfigKey i).symm

@[simp] theorem Feed.key_ne_assetKey : Feed.key j ≠ Bank.assetKey i :=
  (Bank.assetKey_ne_feedKey i j).symm

@[simp] theorem Channel.indexKey_inj : indexKey k = indexKey k' ↔ k = k' := by
  cases k <;> cases k' <;> simp [indexKey_eq]

@[simp] theorem Channel.appConfigKey_ne_indexKey : appConfigKey ≠ indexKey k := by
  cases k <;> simp [appConfigKey_eq, indexKey_eq]

@[simp] theorem Feed.key_ne_indexKey : Feed.key i ≠ indexKey k := by
  cases k <;> simp [Feed.key, Feed.feedPrefix_eq, indexKey_eq]

@[simp] theorem Feed.key_ne_appConfigKey : Feed.key i ≠ appConfigKey := by
  simp [Feed.key, Feed.feedPrefix_eq, appConfigKey_eq]

@[simp] theorem Channel.recordKey_mint_ne_burn : recordKey .mint id ≠ recordKey .burn id' := by
  simp [recordKey, recordPrefix_eq]

@[simp] theorem Channel.recordKey_burn_ne_mint : recordKey .burn id ≠ recordKey .mint id' :=
  (Channel.recordKey_mint_ne_burn id' id).symm

end

end Issuance
