import Mathlib
import Issuance.Proofs.Engine.Custody
/-! # What stays in the store

The engine never erases. Bringing an engine to a declared shape keeps the
settings, assets and found channels (`Kept`, a preorder); a creation is
refused as existing exactly when its record is there. -/
namespace Issuance

open Store Txn Bank Channel Engine

/-- Bytes are stored under `k` in the view `L`, as `has` finds them. -/
def Present (L : Bytes → Option Bytes) (k : Bytes) : Prop := ∃ b, L k = some b ∧ b ≠ []

theorem found_isSome_iff {tx : Tx} {k : Bytes} : (found tx k).isSome ↔ Present tx.lookup k := by
  unfold found Present
  cases tx.lookup k with
  | none => simp
  | some b => simp [Option.filter]

theorem recordAt_eq_none_of_found {α : Type} {shape : Rlp.Shape} {of : Rlp.Value → α} {tx : Tx} {k : Bytes}
    (h : found tx k = none) : recordAt shape of tx.lookup k = none := by
  change (found tx k).bind _ = none
  rw [h, Option.bind_none]

theorem encode_ne_nil (v : Rlp.Value) : Rlp.encode v ≠ [] :=
  List.ne_nil_of_length_pos (Rlp.length_encode_pos v)

/-! ## The records that stay -/

/-- From `L` to `L'` nothing stored went missing, the settings are as they
were, every asset reads the same, and every channel found is still found. -/
structure Kept (L L' : Bytes → Option Bytes) : Prop where
  present : ∀ k, Present L k → Present L' k
  config : appConfigIn L' = appConfigIn L
  assets : ∀ i a, assetIn L i = some a → assetIn L' i = some a
  mints : ∀ id, (mintChannelIn L id).isSome → (mintChannelIn L' id).isSome
  burns : ∀ id, (burnChannelIn L id).isSome → (burnChannelIn L' id).isSome

namespace Kept

variable {L L' L'' : Bytes → Option Bytes}

@[refl] theorem refl (L : Bytes → Option Bytes) : Kept L L :=
  ⟨fun _ h => h, rfl, fun _ _ h => h, fun _ h => h, fun _ h => h⟩

@[trans] theorem trans (h : Kept L L') (h' : Kept L' L'') : Kept L L'' where
  present k hk := h'.present k (h.present k hk)
  config := h'.config.trans h.config
  assets i a ha := h'.assets i a (h.assets i a ha)
  mints id hm := h'.mints id (h.mints id hm)
  burns id hb := h'.burns id (h.burns id hb)

theorem asset_isSome (hk : Kept L L') {i : String} (h : (assetIn L i).isSome) : (assetIn L' i).isSome := by
  obtain ⟨a, ha⟩ := Option.isSome_iff_exists.mp h
  rw [hk.assets i a ha]
  rfl

variable {tx : Tx}

theorem present_restaged {k b : Bytes} (hb : b ≠ []) (k' : Bytes) (hk' : Present tx.lookup k') :
    Present (tx.restaged k (some b)).lookup k' := by
  by_cases hkk : k' = k
  · exact ⟨b, by simp [hkk], hb⟩
  · simpa [Present, hkk] using hk'

theorem present_restaged_self {k b : Bytes} (hb : b ≠ []) : Present (tx.restaged k (some b)).lookup k :=
  ⟨b, by simp, hb⟩

theorem restaged {k b : Bytes} (hb : b ≠ []) (hcfg : appConfigKey ≠ k)
    (hasset : ∀ i, assetKey i = k → assetIn tx.lookup i = none)
    (hmint : ∀ id, recordKey .mint id = k → mintChannelIn tx.lookup id = none)
    (hburn : ∀ id, recordKey .burn id = k → burnChannelIn tx.lookup id = none) :
    Kept tx.lookup (tx.restaged k (some b)).lookup where
  present := present_restaged hb
  config := appConfigIn_restaged_of_ne hcfg
  assets i a ha := by
    by_cases hk : assetKey i = k
    · rw [hasset i hk] at ha
      cases ha
    · rwa [assetIn_restaged_of_ne hk]
  mints id hm := by
    by_cases hk : recordKey .mint id = k
    · rw [hmint id hk] at hm
      cases hm
    · rwa [mintChannelIn_restaged_of_ne hk]
  burns id hb' := by
    by_cases hk : recordKey .burn id = k
    · rw [hburn id hk] at hb'
      cases hb'
    · rwa [burnChannelIn_restaged_of_ne hk]

theorem restaged_outside {k b : Bytes} (hb : b ≠ []) (hcfg : appConfigKey ≠ k) (hasset : ∀ i, assetKey i ≠ k)
    (hrec : ∀ kind id, recordKey kind id ≠ k) : Kept tx.lookup (tx.restaged k (some b)).lookup :=
  restaged hb hcfg (fun i h => absurd h (hasset i)) (fun id h => absurd h (hrec .mint id))
    (fun id h => absurd h (hrec .burn id))

theorem restaged_mint {c : MintChannel} (hst : c.Storable) :
    Kept tx.lookup (tx.restaged (recordKey .mint c.id) (some (Rlp.encode (mintValue c)))).lookup where
  present := present_restaged (encode_ne_nil _)
  config := appConfigIn_restaged_of_ne (by simp)
  assets i a ha := by rwa [assetIn_restaged_of_ne (by simp)]
  mints id _ := by
    rw [mintChannelIn_restaged_mint hst c.id id]
    split
    · rfl
    · assumption
  burns id hb := by rwa [burnChannelIn_restaged_of_ne (by simp)]

theorem restaged_burn {c : BurnChannel} (hst : c.Storable) :
    Kept tx.lookup (tx.restaged (recordKey .burn c.id) (some (Rlp.encode (burnValue c)))).lookup where
  present := present_restaged (encode_ne_nil _)
  config := appConfigIn_restaged_of_ne (by simp)
  assets i a ha := by rwa [assetIn_restaged_of_ne (by simp)]
  mints id hm := by rwa [mintChannelIn_restaged_of_ne (by simp)]
  burns id _ := by
    rw [burnChannelIn_restaged_burn hst c.id id]
    split
    · rfl
    · assumption

theorem append_index {kind : Kind} {v : Bytes} {u : PUnit} {tx' : Tx}
    (h : Returns (Txn.append (indexKey kind) v) tx u tx') : Kept tx.lookup tx'.lookup := by
  obtain ⟨xs, -, hin, hout⟩ := h.append_list
  by_cases hv : v ∈ xs
  · rw [hin hv]
  · rw [hout hv]
    exact restaged_outside (encode_ne_nil _) (by simp) (by simp) (by simp)

theorem putMintChannel {c : MintChannel} {u : Unit} {tx' : Tx} (hst : c.Storable)
    (h : Returns (Channel.putMintChannel c) tx u tx') : Kept tx.lookup tx'.lookup := by
  obtain ⟨-, h1⟩ := putMintChannel_returns h
  exact (restaged_mint hst).trans (append_index h1)

theorem putBurnChannel {c : BurnChannel} {u : Unit} {tx' : Tx} (hst : c.Storable)
    (h : Returns (Channel.putBurnChannel c) tx u tx') : Kept tx.lookup tx'.lookup := by
  obtain ⟨-, h1⟩ := putBurnChannel_returns h
  exact (restaged_burn hst).trans (append_index h1)

end Kept

/-! ## Refusing what is there -/

section
variable {tx : Tx}

theorem Txn.has_eq {k : Bytes} (hraw : tx.raw k = .ok (tx.lookup k)) (hk : k ≠ []) :
    has k tx = .ok ((found tx k).isSome, tx) := by
  unfold has
  simp [bind, StateT.bind, rawGet_eq hraw, hk, Except.bind, pure, StateT.pure, Except.pure]

theorem Txn.read_none {shape : Rlp.Shape} {k : Bytes} (hraw : tx.raw k = .ok (tx.lookup k)) (hk : k ≠ [])
    (hf : found tx k = none) : Txn.read shape k tx = .ok (none, tx) := by
  unfold Txn.read
  simp only [bind, StateT.bind, rawGet_eq hraw, if_neg hk, Except.bind, hf]
  rfl

theorem Txn.read_undecodable {shape : Rlp.Shape} {k b : Bytes} {e : Rlp.DecodeError}
    (hraw : tx.raw k = .ok (tx.lookup k)) (hk : k ≠ []) (hf : found tx k = some b) (hd : Rlp.decode shape b = .error e) :
    Txn.read shape k tx = .error (Fault.plain e.message) := by
  unfold Txn.read
  simp only [bind, StateT.bind, rawGet_eq hraw, if_neg hk, Except.bind, hf, hd]
  rfl

theorem requireAppConfig_eq {c : AppConfig} (hraw : ∀ k, tx.raw k = .ok (tx.lookup k))
    (h : appConfigIn tx.lookup = some c) : requireAppConfig tx = .ok (c, tx) := by
  obtain ⟨v, hv, rfl⟩ := Txn.read_of_recordAt (hraw _) appConfigKey_ne_nil h
  unfold requireAppConfig Channel.appConfig
  simp [bind, StateT.bind, Except.bind, hv, pure, StateT.pure, Except.pure]

theorem requireAppConfig_error (hraw : ∀ k, tx.raw k = .ok (tx.lookup k)) (h : appConfigIn tx.lookup = none) :
    ∃ f, requireAppConfig tx = .error f ∧ f.cause = none := by
  unfold requireAppConfig Channel.appConfig
  change (found tx appConfigKey).bind (fun b => (Rlp.decode appConfigShape b).toOption.map appConfigOf) = none at h
  cases hf : found tx appConfigKey with
  | none =>
    have hr : Txn.read appConfigShape appConfigKey tx = .ok (none, tx) := Txn.read_none (hraw _) appConfigKey_ne_nil hf
    exact ⟨Fault.raise .unavailable "app config not created",
      by simp [bind, StateT.bind, Except.bind, hr, pure, StateT.pure, Except.pure, Txn.fail], rfl⟩
  | some b =>
    rw [hf] at h
    cases hd : Rlp.decode appConfigShape b with
    | ok v => simp [hd, Except.toOption] at h
    | error e =>
      have hr := Txn.read_undecodable (hraw _) appConfigKey_ne_nil hf hd
      exact ⟨Fault.plain e.message, by simp [bind, StateT.bind, Except.bind, hr], rfl⟩

theorem requireAppConfig_unavailable (hraw : ∀ k, tx.raw k = .ok (tx.lookup k)) (h : tx.lookup appConfigKey = none) :
    requireAppConfig tx = .error (Fault.raise .unavailable "app config not created") := by
  have hf : found tx appConfigKey = none := by simp [found, h]
  have hr : Txn.read appConfigShape appConfigKey tx = .ok (none, tx) := Txn.read_none (hraw _) appConfigKey_ne_nil hf
  unfold requireAppConfig Channel.appConfig
  simp [bind, StateT.bind, Except.bind, hr, pure, StateT.pure, Except.pure, Txn.fail]

theorem Bank.createAsset_eq {id : String} {decimals : Nat} {authority : Address}
    (hraw : ∀ k, tx.raw k = .ok (tx.lookup k)) (hw : tx.readOnly = false) :
    Bank.createAsset id decimals authority tx =
      if Text.trim id = "" then .error .assetIdRequired
      else if (found tx (assetKey (Text.trim id))).isSome then .error (.assetExists (Text.trim id))
      else .ok (⟨Text.trim id, decimals, authority, 0⟩, tx.restaged (assetKey (Text.trim id))
        (some (Rlp.encode (assetValue ⟨Text.trim id, decimals, authority, 0⟩)))) := by
  have hk : assetKey (Text.trim id) ≠ [] := by simp [assetKey, assetPrefix_eq]
  unfold Bank.createAsset
  by_cases hid : Text.trim id = ""
  · simp [hid, bind, StateT.bind, Except.bind, Bank.fail]
  · by_cases hf : (found tx (assetKey (Text.trim id))).isSome
    · simp [hid, hf, bind, StateT.bind, Except.bind, Bank.fail, io, Txn.mapFault, Txn.has_eq (hraw _) hk]
    · simp [hid, hf, bind, StateT.bind, Except.bind, io, Txn.mapFault, Txn.has_eq (hraw _) hk, putAsset,
        write_eq, stage_eq, hw, hk, pure, StateT.pure, Except.pure]

/-- On a writable transaction that answers every read, creating an asset is
refused as existing exactly when its checks pass and its record is there. -/
theorem createAsset_exists_iff {id : String} {decimals : Nat} {authority : Address}
    (hraw : ∀ k, tx.raw k = .ok (tx.lookup k)) (hw : tx.readOnly = false) :
    (∃ f, Engine.createAsset id decimals authority tx = .error f ∧ f.cause = some .assetExists) ↔
      checkDecimals decimals = .ok () ∧ (authority.isZero = true → (appConfigIn tx.lookup).isSome) ∧
        Text.trim id ≠ "" ∧ Present tx.lookup (assetKey (Text.trim id)) := by
  rw [← found_isSome_iff]
  unfold Engine.createAsset
  cases hdec : checkDecimals decimals with
  | error f0 =>
    have hc : f0.cause = none := by
      unfold checkDecimals at hdec
      split at hdec <;> cases hdec
      rfl
    simp [bind, StateT.bind, Except.bind, Txn.lift, Except.map, hc]
  | ok u =>
    by_cases hz : authority.isZero = true
    · cases hc : appConfigIn tx.lookup with
      | none =>
        obtain ⟨f1, hf1, hc1⟩ := requireAppConfig_error hraw hc
        simp [bind, StateT.bind, Except.bind, Txn.lift, Except.map, hz, hf1, hc1]
      | some c =>
        by_cases hid : Text.trim id = "" <;> by_cases hf : (found tx (assetKey (Text.trim id))).isSome <;>
          simp [bind, StateT.bind, Except.bind, Txn.lift, Except.map, hz, requireAppConfig_eq hraw hc, bankStep,
            Txn.mapFault, Bank.createAsset_eq hraw hw, hid, hf, Bank.Error.toFault, Fault.under, Fault.plain,
            pure, StateT.pure, Except.pure]
    · by_cases hid : Text.trim id = "" <;> by_cases hf : (found tx (assetKey (Text.trim id))).isSome <;>
        simp [bind, StateT.bind, Except.bind, Txn.lift, Except.map, hz, bankStep,
          Txn.mapFault, Bank.createAsset_eq hraw hw, hid, hf, Bank.Error.toFault, Fault.under, Fault.plain,
          pure, StateT.pure, Except.pure]

/-- Creating an asset fails as an internal error exactly when the checks before
the bank pass and the trimmed id is blank. -/
theorem createAsset_internal_iff_blank_id {id : String} {decimals : Nat} {authority : Address}
    (hraw : ∀ k, tx.raw k = .ok (tx.lookup k)) (hw : tx.readOnly = false)
    (hset : tx.lookup appConfigKey = none ∨ (appConfigIn tx.lookup).isSome) :
    (∃ f, Engine.createAsset id decimals authority tx = .error f ∧ f.code = .internal) ↔
      checkDecimals decimals = .ok () ∧ (authority.isZero = true → (appConfigIn tx.lookup).isSome) ∧
        Text.trim id = "" := by
  unfold Engine.createAsset
  cases hdec : checkDecimals decimals with
  | error f0 =>
    -- decimals out of range are invalid input
    have hc : f0.code = .invalidInput := by
      unfold checkDecimals at hdec
      split at hdec <;> cases hdec
      rfl
    simp [bind, StateT.bind, Except.bind, Txn.lift, Except.map, hc]
  | ok u =>
    by_cases hz : authority.isZero = true
    · cases hc : appConfigIn tx.lookup with
      | none =>
        -- settings that decode where there are any are missing, not broken
        have hnone : tx.lookup appConfigKey = none := by simpa [hc] using hset
        simp [bind, StateT.bind, Except.bind, Txn.lift, Except.map, hz, requireAppConfig_unavailable hraw hnone]
      | some c =>
        by_cases hid : Text.trim id = "" <;> by_cases hf : (found tx (assetKey (Text.trim id))).isSome <;>
          simp [bind, StateT.bind, Except.bind, Txn.lift, Except.map, hz, requireAppConfig_eq hraw hc, bankStep,
            Txn.mapFault, Bank.createAsset_eq hraw hw, hid, hf, Bank.Error.toFault, Fault.under, Fault.plain,
            Code.first, Code.rank, pure, StateT.pure, Except.pure]
    · by_cases hid : Text.trim id = "" <;> by_cases hf : (found tx (assetKey (Text.trim id))).isSome <;>
        simp [bind, StateT.bind, Except.bind, Txn.lift, Except.map, hz, bankStep,
          Txn.mapFault, Bank.createAsset_eq hraw hw, hid, hf, Bank.Error.toFault, Fault.under, Fault.plain,
          Code.first, Code.rank, pure, StateT.pure, Except.pure]

/-- On an empty database, an asset with a blank id and an authority of its
own is refused as an internal error. -/
theorem createAsset_blank_id_internal_on_empty_store :
    ∃ f, Engine.createAsset "" 6 ⟨List.replicate 19 0 ++ [4], rfl⟩ ({ db := {} } : Tx) = .error f ∧
      f.code = .internal :=
  (createAsset_internal_iff_blank_id (Tx.raw_of_db rfl) rfl (.inl rfl)).mpr
    ⟨rfl, fun h => absurd h (by decide), rfl⟩

theorem Feed.create_eq {id description : String} {decimals : Nat}
    (hraw : ∀ k, tx.raw k = .ok (tx.lookup k)) (hw : tx.readOnly = false) :
    Feed.create id description decimals tx =
      if Text.trim id = "" then .error .idRequired
      else if decimals > Amount.maxDecimals then .error (.decimalsTooLarge decimals)
      else if (found tx (Feed.key (Text.trim id))).isSome then .error (.exists (Text.trim id))
      else .ok ((⟨Text.trim id, Text.trim description, decimals, 0, 0, false, 0⟩ : Feed.Stored).toFeed,
        tx.restaged (Feed.key (Text.trim id))
          (some (Rlp.encode (⟨Text.trim id, Text.trim description, decimals, 0, 0, false, 0⟩ : Feed.Stored).toValue))) := by
  have hk : Feed.key (Text.trim id) ≠ [] := by simp [Feed.key, Feed.feedPrefix_eq]
  unfold Feed.create
  by_cases hid : Text.trim id = ""
  · simp [hid, bind, StateT.bind, Except.bind, Feed.fail]
  · by_cases hd : decimals > Amount.maxDecimals
    · simp [hid, hd, bind, StateT.bind, Except.bind, Feed.fail]
    · by_cases hf : (found tx (Feed.key (Text.trim id))).isSome
      · simp [hid, hd, hf, bind, StateT.bind, Except.bind, Feed.fail, Feed.io, Txn.mapFault, Txn.has_eq (hraw _) hk]
      · simp [hid, hd, hf, bind, StateT.bind, Except.bind, Feed.io, Txn.mapFault, Txn.has_eq (hraw _) hk,
          write_eq, stage_eq, hw, hk, pure, StateT.pure, Except.pure]

theorem createFeed_exists_iff {id description : String} {decimals : Nat}
    (hraw : ∀ k, tx.raw k = .ok (tx.lookup k)) (hw : tx.readOnly = false) :
    (∃ f, Engine.createFeed id description decimals tx = .error f ∧ f.cause = some .feedExists) ↔
      Text.trim id ≠ "" ∧ ¬ decimals > Amount.maxDecimals ∧ Present tx.lookup (Feed.key (Text.trim id)) := by
  rw [← found_isSome_iff]
  unfold Engine.createFeed
  by_cases hid : Text.trim id = "" <;> by_cases hd : decimals > Amount.maxDecimals <;>
    by_cases hf : (found tx (Feed.key (Text.trim id))).isSome <;>
    simp [bind, StateT.bind, Except.bind, Txn.mapFault, Feed.create_eq hraw hw, hid, hd, hf, feedFault,
      Feed.Error.isRequestError, Feed.Error.toFault, Fault.under, Fault.plain, pure, StateT.pure, Except.pure]

theorem Bank.asset_error {id : String} (hraw : ∀ k, tx.raw k = .ok (tx.lookup k))
    (h : assetIn tx.lookup (Text.trim id) = none) :
    ∃ e, Bank.asset id tx = .error e ∧ (e = .assetNotFound (Text.trim id) ∨ ∃ m, e = .store (Fault.plain m)) := by
  have hk : assetKey (Text.trim id) ≠ [] := by simp [assetKey, assetPrefix_eq]
  change (found tx (assetKey (Text.trim id))).bind (fun b => (Rlp.decode assetShape b).toOption.map assetOfValue) =
    none at h
  unfold Bank.asset
  cases hf : found tx (assetKey (Text.trim id)) with
  | none =>
    have hr : Txn.read assetShape (assetKey (Text.trim id)) tx = .ok (none, tx) := Txn.read_none (hraw _) hk hf
    exact ⟨_, by simp [bind, StateT.bind, Except.bind, Bank.io, Txn.mapFault, hr, Bank.fail], .inl rfl⟩
  | some b =>
    rw [hf] at h
    cases hd : Rlp.decode assetShape b with
    | ok v => simp [hd, Except.toOption] at h
    | error e =>
      have hr := Txn.read_undecodable (hraw _) hk hf hd
      exact ⟨.store (Fault.plain e.message), by simp [bind, StateT.bind, Except.bind, Bank.io, Txn.mapFault, hr],
        .inr ⟨_, rfl⟩⟩

theorem Bank.openAccount_eq {id : String} {owner : Address} {assetId fresh : String} {x : Asset}
    (hraw : ∀ k, tx.raw k = .ok (tx.lookup k)) (hw : tx.readOnly = false)
    (hx : assetIn tx.lookup (Text.trim assetId) = some x) :
    Bank.openAccount id owner assetId fresh tx =
      if (found tx (accountKey (if Text.trim id = "" then fresh else Text.trim id))).isSome then
        .error (.accountExists (if Text.trim id = "" then fresh else Text.trim id))
      else .ok (⟨if Text.trim id = "" then fresh else Text.trim id, owner, Text.trim assetId, 0⟩,
        tx.restaged (accountKey (if Text.trim id = "" then fresh else Text.trim id))
          (some (Rlp.encode (accountValue
            ⟨if Text.trim id = "" then fresh else Text.trim id, owner, Text.trim assetId, 0⟩)))) := by
  have hk : ∀ j, accountKey j ≠ [] := fun j => by simp [accountKey, accountPrefix_eq]
  unfold Bank.openAccount
  by_cases hf : (found tx (accountKey (if Text.trim id = "" then fresh else Text.trim id))).isSome
  · simp [hf, bind, StateT.bind, Except.bind, Bank.asset_eq hraw hx, Bank.fail, Bank.io, Txn.mapFault,
      Txn.has_eq (hraw _) (hk _)]
  · simp [hf, bind, StateT.bind, Except.bind, Bank.asset_eq hraw hx, Bank.io, Txn.mapFault,
      Txn.has_eq (hraw _) (hk _), putAccount, write_eq, stage_eq, hw, hk, pure, StateT.pure, Except.pure]

/-- Opening an account is refused as existing exactly when its asset
exists and a record sits under the id it would take. -/
theorem openAccount_exists_iff {ctx : Context} {owner : Address} {id asset : String}
    (hraw : ∀ k, tx.raw k = .ok (tx.lookup k)) (hw : tx.readOnly = false) :
    (∃ f, Engine.openAccount ctx owner id asset tx = .error f ∧ f.cause = some .accountExists) ↔
      (assetIn tx.lookup (Text.trim asset)).isSome ∧
        Present tx.lookup (accountKey (if Text.trim id = "" then ctx.fresh else Text.trim id)) := by
  rw [← found_isSome_iff]
  unfold Engine.openAccount
  cases hx : assetIn tx.lookup (Text.trim asset) with
  | none =>
    obtain ⟨e, he, hform⟩ := Bank.asset_error hraw hx
    have hopen : Bank.openAccount id owner asset ctx.fresh tx = .error e := by
      unfold Bank.openAccount
      simp [bind, StateT.bind, Except.bind, he]
    rcases hform with rfl | ⟨m, rfl⟩ <;>
      simp [bind, StateT.bind, Except.bind, bankStep, Txn.mapFault, hopen, Bank.Error.toFault, Fault.under,
        Fault.plain]
  | some x =>
    by_cases hf : (found tx (accountKey (if Text.trim id = "" then ctx.fresh else Text.trim id))).isSome <;>
      simp [bind, StateT.bind, Except.bind, bankStep, Txn.mapFault, Bank.openAccount_eq hraw hw hx, hf,
        Bank.Error.toFault, Fault.under, Fault.plain, pure, StateT.pure, Except.pure]

end

/-! ## What each step of a declaration keeps -/

section
variable {tx tx' : Tx}

theorem Feed.submit_writes {id : String} {answer time : Int} {r : Round}
    (h : Returns (Feed.submit id answer time) tx r tx') : ∃ i v, tx' = tx.restaged (Feed.key i) (some (Rlp.encode v)) := by
  unfold Feed.submit at h
  obtain ⟨s, t1, hs, h1⟩ := Returns.bind h
  obtain rfl := Feed.load_returns hs
  obtain ⟨-, h2⟩ := Returns.guard h1
  obtain ⟨-, h3⟩ := Returns.guard h2
  obtain ⟨u, t2, h4, h5⟩ := Returns.bind h3
  have hw := (Feed.returns_io.mp h4).write.2.2
  split at h5 <;> exact ⟨_, _, (Returns.pure h5).2 ▸ hw⟩

theorem createAsset_kept {id : String} {decimals : Nat} {authority : Address} {r : Asset × List Event}
    (h : Returns (Engine.createAsset id decimals authority) tx r tx') :
    Kept tx.lookup tx'.lookup ∧ checkDecimals decimals = .ok () ∧ Text.trim id ≠ "" ∧
      Present tx'.lookup (assetKey (Text.trim id)) := by
  obtain ⟨signer, hdec, h1⟩ := Engine.createAsset_returns h
  obtain ⟨hid, hnone, ha, rfl⟩ := Bank.createAsset_returns h1
  rw [ha]
  refine ⟨Kept.restaged (encode_ne_nil _) (by simp) (fun i hi => ?_) (by simp) (by simp), hdec, hid,
    Kept.present_restaged_self (encode_ne_nil _)⟩
  obtain rfl := (assetKey_inj _ _).mp hi
  exact recordAt_eq_none_of_found hnone

/-- Creating a feed on a writable transaction that answers every read stores
it under its trimmed id and keeps everything. -/
theorem createFeed_kept {id description : String} {decimals : Nat} {r : PriceFeed × List Event}
    (hraw : ∀ k, tx.raw k = .ok (tx.lookup k)) (hw : tx.readOnly = false)
    (h : Returns (Engine.createFeed id description decimals) tx r tx') :
    Kept tx.lookup tx'.lookup ∧ Text.trim id ≠ "" ∧ ¬ decimals > Amount.maxDecimals ∧
      Present tx'.lookup (Feed.key (Text.trim id)) := by
  unfold Engine.createFeed at h
  obtain ⟨f, t1, hl, h1⟩ := Returns.bind h
  obtain ⟨-, rfl⟩ := Returns.pure h1
  have hl : Feed.create id description decimals tx = .ok (f, _) := returns_mapFault.mp hl
  rw [Feed.create_eq hraw hw] at hl
  split_ifs at hl with hid hd hf
  cases hl
  exact ⟨Kept.restaged_outside (encode_ne_nil _) (Ne.symm (by simp)) (by simp) (by simp), hid, hd,
    Kept.present_restaged_self (encode_ne_nil _)⟩

theorem submitRound_kept {now answer : Int} {id : String} {r : Round × List Event}
    (h : Returns (Engine.submitRound now id answer) tx r tx') : Kept tx.lookup tx'.lookup := by
  unfold Engine.submitRound at h
  obtain ⟨x, t1, hl, h1⟩ := Returns.bind h
  obtain ⟨-, rfl⟩ := Returns.pure h1
  obtain ⟨i, v, rfl⟩ := Feed.submit_writes (returns_mapFault.mp hl)
  exact Kept.restaged_outside (encode_ne_nil _) (Ne.symm (by simp)) (by simp) (by simp)

theorem openAccount_kept {ctx : Context} {owner : Address} {id asset : String} {r : Account × List Event}
    (h : Returns (Engine.openAccount ctx owner id asset) tx r tx') :
    Kept tx.lookup tx'.lookup ∧ (assetIn tx.lookup (Text.trim asset)).isSome ∧
      Present tx'.lookup (accountKey (if Text.trim id = "" then ctx.fresh else Text.trim id)) := by
  obtain ⟨hx, ha, -, rfl⟩ := Bank.openAccount_returns (Engine.openAccount_returns h)
  rw [ha]
  refine ⟨Kept.restaged_outside (encode_ne_nil _) (Ne.symm (by simp)) (by simp) (by simp), hx, ?_⟩
  simpa using @Kept.present_restaged_self tx _ _ (encode_ne_nil _)

/-- Creating a mint channel with a short path and a capacity of sixteen bits
stores a sound channel under the identifier of the trimmed path and keeps
everything. -/
theorem createMintChannel_kept {path : String} {capacity : Nat} {r : MintChannel × List Event}
    (hp : Text.Short path) (hcap : capacity < 2 ^ 16) (h : Returns (createMintChannel path capacity) tx r tx') :
    Kept tx.lookup tx'.lookup ∧ ∀ c, mintChannelIn tx'.lookup (ChannelId.derive .mint (Text.trim path)) = some c →
      c.id = ChannelId.derive .mint (Text.trim path) ∧ c.Storable ∧ c.Valid := by
  obtain ⟨-, c, -, hst, hv, -, -, hput, hr⟩ := createMintChannel_writes hp hcap h
  obtain ⟨-, p, -, hpath, -, -, hr'⟩ := createMintChannel_returns h
  obtain ⟨rfl, -⟩ := checkPath_eq_ok.mp hpath
  have hid : c.id = ChannelId.derive .mint (Text.trim path) := by rw [← hr, hr']
  refine ⟨Kept.putMintChannel hst hput, fun c' hc' => ?_⟩
  rw [mintChannelIn_putMintChannel hst hput, if_pos hid.symm] at hc'
  cases hc'
  exact ⟨hid, hst.reread, hv.reread⟩

/-- Creating a burn channel with a short path stores a sound channel under
the identifier of the trimmed path and keeps everything. -/
theorem createBurnChannel_kept {path : String} {r : BurnChannel × List Event} (hp : Text.Short path)
    (h : Returns (createBurnChannel path) tx r tx') :
    Kept tx.lookup tx'.lookup ∧ ∀ c, burnChannelIn tx'.lookup (ChannelId.derive .burn (Text.trim path)) = some c →
      c.id = ChannelId.derive .burn (Text.trim path) ∧ c.Storable ∧ c.Valid := by
  obtain ⟨-, c, -, hst, hv, -, -, hput, hr⟩ := createBurnChannel_writes hp h
  obtain ⟨-, p, -, hpath, -, -, hr'⟩ := createBurnChannel_returns h
  obtain ⟨rfl, -⟩ := checkPath_eq_ok.mp hpath
  have hid : c.id = ChannelId.derive .burn (Text.trim path) := by rw [← hr, hr']
  refine ⟨Kept.putBurnChannel hst hput, fun c' hc' => ?_⟩
  rw [burnChannelIn_putBurnChannel hst hput, if_pos hid.symm] at hc'
  cases hc'
  exact ⟨hid, hst.reread, hv.reread⟩

/-- Setting a sound mint channel with settings as a request carries them
keeps everything, the channel found. -/
theorem setMintChannel_kept {now : Int} {id : ChannelId} {s : MintSettings} {r : MintChannel × List Event}
    (hsound : ∀ c, mintChannelIn tx.lookup id = some c → c.id = id ∧ c.Storable ∧ c.Valid)
    (ho : (Op.setMintChannel id s).Typed) (h : Returns (setMintChannel now id s) tx r tx') :
    Kept tx.lookup tx'.lookup ∧ (mintChannelIn tx'.lookup id).isSome := by
  obtain ⟨-, c, c', -, -, rfl, hid, hst, -, -, -, hput, -⟩ := setMintChannel_writes_of hsound ho h
  refine ⟨Kept.putMintChannel hst hput, ?_⟩
  rw [mintChannelIn_putMintChannel hst hput, if_pos hid.symm]
  rfl

theorem setBurnChannel_kept {now : Int} {id : ChannelId} {s : BurnSettings} {r : BurnChannel × List Event}
    (hsound : ∀ c, burnChannelIn tx.lookup id = some c → c.id = id ∧ c.Storable ∧ c.Valid)
    (ho : (Op.setBurnChannel id s).Typed) (h : Returns (setBurnChannel now id s) tx r tx') :
    Kept tx.lookup tx'.lookup ∧ (burnChannelIn tx'.lookup id).isSome := by
  obtain ⟨-, c, c', -, -, rfl, hid, hst, -, -, -, hput, -⟩ := setBurnChannel_writes_of hsound ho h
  refine ⟨Kept.putBurnChannel hst hput, ?_⟩
  rw [burnChannelIn_putBurnChannel hst hput, if_pos hid.symm]
  rfl

end

/-! ## Finding a channel -/

section
variable {tx : Tx}

theorem Channel.appConfig_eq {c : AppConfig} (hraw : ∀ k, tx.raw k = .ok (tx.lookup k))
    (h : appConfigIn tx.lookup = some c) : Channel.appConfig tx = .ok (some c, tx) := by
  obtain ⟨v, hv, rfl⟩ := Txn.read_of_recordAt (hraw _) appConfigKey_ne_nil h
  unfold Channel.appConfig
  simp [bind, StateT.bind, Except.bind, hv, pure, StateT.pure, Except.pure]

theorem getMintChannel_returns (now : Int) {id : ChannelId} (hraw : ∀ k, tx.raw k = .ok (tx.lookup k))
    (hc : (mintChannelIn tx.lookup id).isSome) (hcfg : (appConfigIn tx.lookup).isSome) :
    ∃ r, getMintChannel now id tx = .ok (r, tx) := by
  obtain ⟨c, hc'⟩ := Option.isSome_iff_exists.mp hc
  obtain ⟨cfg, hcfg'⟩ := Option.isSome_iff_exists.mp hcfg
  unfold getMintChannel rollingHours
  exact ⟨(c, Channel.remaining c.counters cfg.rollingPeriodHours now), by
    simp [bind, StateT.bind, Except.bind, mintChannel_eq hraw hc, hc', Txn.mapFault, Channel.appConfig_eq hraw hcfg', pure,
      StateT.pure, Except.pure]⟩

theorem getMintChannel_found {now : Int} {id : ChannelId} {r : MintChannel × Nat} {tx' : Tx}
    (h : Returns (getMintChannel now id) tx r tx') : (mintChannelIn tx.lookup id).isSome := by
  unfold getMintChannel at h
  obtain ⟨c, t1, hc, h1⟩ := Returns.bind h
  obtain ⟨ht, rfl⟩ := mintChannel_returns hc
  rw [ht] at h1
  cases hfound : mintChannelIn tx.lookup id with
  | none =>
    rw [hfound] at h1
    exact absurd h1 not_returns_fail
  | some c => rfl

theorem getBurnChannel_returns (now : Int) {id : ChannelId} (hraw : ∀ k, tx.raw k = .ok (tx.lookup k))
    (hc : (burnChannelIn tx.lookup id).isSome) (hcfg : (appConfigIn tx.lookup).isSome) :
    ∃ r, getBurnChannel now id tx = .ok (r, tx) := by
  obtain ⟨c, hc'⟩ := Option.isSome_iff_exists.mp hc
  obtain ⟨cfg, hcfg'⟩ := Option.isSome_iff_exists.mp hcfg
  unfold getBurnChannel rollingHours
  exact ⟨(c, Channel.remaining c.counters cfg.rollingPeriodHours now), by
    simp [bind, StateT.bind, Except.bind, burnChannel_eq hraw hc, hc', Txn.mapFault, Channel.appConfig_eq hraw hcfg', pure,
      StateT.pure, Except.pure]⟩

theorem getBurnChannel_found {now : Int} {id : ChannelId} {r : BurnChannel × Nat} {tx' : Tx}
    (h : Returns (getBurnChannel now id) tx r tx') : (burnChannelIn tx.lookup id).isSome := by
  unfold getBurnChannel at h
  obtain ⟨c, t1, hc, h1⟩ := Returns.bind h
  obtain ⟨ht, rfl⟩ := burnChannel_returns hc
  rw [ht] at h1
  cases hfound : burnChannelIn tx.lookup id with
  | none =>
    rw [hfound] at h1
    exact absurd h1 not_returns_fail
  | some c => rfl

end

end Issuance
