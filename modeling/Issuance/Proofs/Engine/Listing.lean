import Mathlib
import Issuance.Proofs.Store.Overlay
import Issuance.Proofs.Engine.Windows
/-! # The channel listings

`Catalog`: the settings decode and each index lists exactly the stored
channels of its kind, once each, in order. Every operation keeps it, so a
listing returns the channels in creation order (under 2^58 per index). -/
namespace Issuance

open Store Txn Channel Engine Rlp

theorem ChannelId.eq_of_bytes {a b : ChannelId} (h : a.bytes = b.bytes) : a = b := by
  cases a
  cases b
  simp only at h
  subst h
  rfl

namespace Store

theorem Tx.lookup_view (db : Database) : ({ db := db, readOnly := true } : Tx).lookup = db.store.get? :=
  funext fun _ => rfl

namespace Txn

variable {tx : Tx} {key : Bytes} {shape : Shape}

theorem read_returns (hraw : tx.raw key = .ok (tx.lookup key)) (hk : key ≠ [])
    (hd : ∀ b, found tx key = some b → ∃ v, decode shape b = .ok v) : ∃ r, read shape key tx = .ok (r, tx) := by
  unfold read
  simp only [bind, StateT.bind, rawGet_eq hraw, if_neg hk, Except.bind]
  cases hf : found tx key with
  | none => exact ⟨none, rfl⟩
  | some b =>
    obtain ⟨v, hv⟩ := hd b hf
    exact ⟨some v, by simp only [hv]; rfl⟩

theorem readList_returns (hraw : tx.raw key = .ok (tx.lookup key)) (hk : key ≠ [])
    (hd : ∀ b, found tx key = some b → ∃ v, decode blobList b = .ok v) : ∃ xs, readList key tx = .ok (xs, tx) := by
  obtain ⟨r, hr⟩ := read_returns hraw hk hd
  unfold readList
  simp only [bind, StateT.bind, hr, Except.bind]
  split <;> exact ⟨_, rfl⟩

theorem record_returns {α : Type} (of : Value → α) (hraw : tx.raw key = .ok (tx.lookup key)) (hk : key ≠ [])
    (hd : ∀ b, found tx key = some b → ∃ v, decode shape b = .ok v) :
    ∃ r, (do pure ((← read shape key).map of) : Txn (Option α)) tx = .ok (r, tx) := by
  obtain ⟨r, hr⟩ := read_returns hraw hk hd
  exact ⟨r.map of, by simp only [bind, StateT.bind, hr, Except.bind]; rfl⟩

theorem decodes_of_recordAt {α : Type} {of : Value → α} (h : (recordAt shape of tx.lookup key).isSome) :
    ∀ b, found tx key = some b → ∃ v, decode shape b = .ok v := by
  intro b hb
  change ((found tx key).bind fun b => (decode shape b).toOption.map of).isSome at h
  rw [hb] at h
  cases hd : decode shape b with
  | ok v => exact ⟨v, rfl⟩
  | error e => simp [hd, Except.toOption] at h

theorem mapM_returns {α β : Type} {f : α → Txn β} {g : α → β} {as : List α}
    (h : ∀ a ∈ as, f a tx = .ok (g a, tx)) : as.mapM f tx = .ok (as.map g, tx) := by
  induction as with
  | nil => rfl
  | cons a as ih =>
    simp only [List.mapM_cons, bind, StateT.bind, Except.bind, h a List.mem_cons_self,
      ih fun b hb => h b (List.mem_cons_of_mem a hb), pure, StateT.pure, Except.pure, List.map_cons]

end Txn

end Store

namespace Channel

/-- The index of `ids` as it is stored: nothing while there are none, and
otherwise their identifiers in order, as a list of byte strings. -/
def indexBytes (ids : List ChannelId) : Option Bytes :=
  if ids = [] then none else some (encode (.items ((ids.map (·.bytes)).map .bytes)))

/-- The index of kind `k` in the view `L` lists `ids`, each once, and a
channel of that kind is stored exactly when it is listed. -/
structure Listing (L : Bytes → Option Bytes) (k : Kind) (ids : List ChannelId) : Prop where
  index : L (indexKey k) = indexBytes ids
  nodup : ids.Nodup
  stored : ∀ id, (countersIn L k id).isSome ↔ id ∈ ids

/-- What listing readers rely on in a view: settings decode, and each
index lists exactly the stored channels of its kind. -/
structure Catalog (L : Bytes → Option Bytes) (mints burns : List ChannelId) : Prop where
  settings : L appConfigKey = none ∨ (appConfigIn L).isSome
  mint : Listing L .mint mints
  burn : Listing L .burn burns

theorem idOfIndex_bytes (id : ChannelId) : idOfIndex id.bytes = id :=
  ChannelId.eq_of_bytes (List.take_left' id.size)

theorem fits_index {ids : List ChannelId} (h : ids.length < 2 ^ 58) :
    Fits blobList (.items ((ids.map (·.bytes)).map .bytes)) := by
  -- each identifier takes its 32 bytes and a header of at most 9
  have hlen : ∀ n ∈ ((ids.map (·.bytes)).map Value.bytes).map fun v => (encode v).length, n ≤ 41 := by
    simp only [List.map_map, List.mem_map, Function.comp_apply]
    rintro _ ⟨id, -, rfl⟩
    have := length_encode_bytes_le (b := id.bytes) (by rw [id.size]; norm_num)
    rw [id.size] at this
    exact this
  refine fits_seq ?_ ?_
  · simp only [List.map_map, List.mem_map, Function.comp_apply]
    rintro _ ⟨id, -, rfl⟩
    exact .blob (Bytes.length_ofNat_le (by rw [id.size]; norm_num))
  · rw [length_encodeAll]
    have hsum := List.sum_le_card_nsmul _ 41 hlen
    simp only [List.length_map, smul_eq_mul] at hsum
    omega

section
variable {tx tx' : Tx} {k : Kind} {ids : List ChannelId}

theorem found_index (hl : tx.lookup (indexKey k) = indexBytes ids) : found tx (indexKey k) = indexBytes ids := by
  unfold indexBytes at hl ⊢
  split_ifs at hl ⊢
  · exact found_eq_none hl
  · exact found_eq_some hl (List.ne_nil_of_length_pos (length_encode_pos _))

theorem index_read {xs : List Bytes} (h : Txn.Returns (readList (indexKey k)) tx xs tx')
    (hl : tx.lookup (indexKey k) = indexBytes ids) (hfit : ids.length < 2 ^ 58) : xs = ids.map (·.bytes) := by
  obtain ⟨hnone, hsome⟩ := h.readList_found
  have hf := found_index hl
  unfold indexBytes at hf
  split_ifs at hf with hids
  · rw [hnone hf, hids]
    rfl
  · exact hsome _ _ hf (decode_encode (fits_index hfit))

/-- Adding a channel's identifier to an index that lists `ids` lists it last
unless it is listed, and writes nothing but the index. -/
theorem index_append {id : ChannelId} {u : PUnit} (h : Txn.Returns (append (indexKey k) id.bytes) tx u tx')
    (hl : tx.lookup (indexKey k) = indexBytes ids) (hfit : ids.length < 2 ^ 58) :
    tx.Stages (· = indexKey k) tx' ∧ tx'.lookup (indexKey k) = indexBytes (if id ∈ ids then ids else ids ++ [id]) := by
  obtain ⟨xs, hr, hin, hout⟩ := h.append_list
  obtain rfl := index_read hr hl hfit
  -- the index holds identifiers by their bytes
  have hmem : id.bytes ∈ ids.map (·.bytes) ↔ id ∈ ids := by
    simp only [List.mem_map]
    exact ⟨fun ⟨j, hj, he⟩ => ChannelId.eq_of_bytes he ▸ hj, fun hi => ⟨id, hi, rfl⟩⟩
  by_cases hid : id ∈ ids
  · rw [hin (hmem.mpr hid), if_pos hid]
    exact ⟨.refl, hl⟩
  · rw [hout (mt hmem.mp hid), if_neg hid]
    refine ⟨.restaged (P := (· = indexKey k)) rfl _, ?_⟩
    simp [Tx.lookup_restaged, indexBytes]

theorem Listing.empty (k : Kind) : Listing ({} : Store).get? k [] where
  index := by simp [indexBytes, Store.get?]
  nodup := .nil
  stored id := by cases k <;> simp [countersIn, mintChannelIn, burnChannelIn, recordAt, Store.get?]

theorem Listing.stages {P : Bytes → Prop} (hL : Listing tx.lookup k ids) (h : tx.Stages P tx')
    (hP : ∀ key, P key → key ≠ indexKey k ∧ ∀ id, key ≠ recordKey k id) : Listing tx'.lookup k ids where
  index := by
    rw [h.lookup fun hk => (hP _ hk).1 rfl]
    exact hL.index
  nodup := hL.nodup
  stored id := by
    rw [countersIn_of_stages h (fun key hk => (hP key hk).2) id]
    exact hL.stored id

/-- An index that lists `i` last unless it was listed keeps listing exactly
the stored channels, when `i`'s is the one record that may have changed and
it is stored. -/
theorem Listing.put {i : ChannelId} (hL : Listing tx.lookup k ids)
    (hidx : tx'.lookup (indexKey k) = indexBytes (if i ∈ ids then ids else ids ++ [i]))
    (hstored : ∀ j, (countersIn tx'.lookup k j).isSome ↔ j = i ∨ (countersIn tx.lookup k j).isSome) :
    Listing tx'.lookup k (if i ∈ ids then ids else ids ++ [i]) := by
  refine ⟨hidx, ?_, fun j => ?_⟩
  · by_cases hi : i ∈ ids
    · simpa [hi] using hL.nodup
    · rw [if_neg hi, List.nodup_append]
      refine ⟨hL.nodup, List.nodup_singleton _, ?_⟩
      rintro a ha b hb rfl
      rw [List.mem_singleton] at hb
      exact hi (hb ▸ ha)
  · rw [hstored j, hL.stored j]
    by_cases hi : i ∈ ids
    · rw [if_pos hi]
      exact ⟨fun h => h.elim (· ▸ hi) id, Or.inr⟩
    · rw [if_neg hi, List.mem_append, List.mem_singleton, or_comm]

theorem Listing.putMintChannel {c : MintChannel} {u : Unit} (hL : Listing tx.lookup .mint ids) (hst : c.Storable)
    (hfit : ids.length < 2 ^ 58) (h : Txn.Returns (Channel.putMintChannel c) tx u tx') :
    Listing tx'.lookup .mint (if c.id ∈ ids then ids else ids ++ [c.id]) := by
  obtain ⟨-, h1⟩ := putMintChannel_returns h
  have hl : (tx.restaged (recordKey .mint c.id) (some (encode (mintValue c)))).lookup (indexKey .mint) =
      indexBytes ids := by
    rw [Tx.lookup_restaged, if_neg (by simp)]
    exact hL.index
  exact hL.put (index_append h1 hl hfit).2 fun j => by
    by_cases hj : j = c.id <;> simp [countersIn_putMintChannel hst h, hj]

theorem Listing.putBurnChannel {c : BurnChannel} {u : Unit} (hL : Listing tx.lookup .burn ids) (hst : c.Storable)
    (hfit : ids.length < 2 ^ 58) (h : Txn.Returns (Channel.putBurnChannel c) tx u tx') :
    Listing tx'.lookup .burn (if c.id ∈ ids then ids else ids ++ [c.id]) := by
  obtain ⟨-, h1⟩ := putBurnChannel_returns h
  have hl : (tx.restaged (recordKey .burn c.id) (some (encode (burnValue c)))).lookup (indexKey .burn) =
      indexBytes ids := by
    rw [Tx.lookup_restaged, if_neg (by simp)]
    exact hL.index
  exact hL.put (index_append h1 hl hfit).2 fun j => by
    by_cases hj : j = c.id <;> simp [countersIn_putBurnChannel hst h, hj]

variable {mints burns : List ChannelId}

theorem Catalog.empty : Catalog ({} : Store).get? [] [] :=
  ⟨.inl rfl, Listing.empty .mint, Listing.empty .burn⟩

theorem Catalog.stages {P : Bytes → Prop} (hC : Catalog tx.lookup mints burns) (h : tx.Stages P tx')
    (hP : ∀ key, P key → key ≠ appConfigKey ∧ (∀ k, key ≠ indexKey k) ∧ ∀ k id, key ≠ recordKey k id) :
    Catalog tx'.lookup mints burns where
  settings := by
    have hk : ¬ P appConfigKey := fun hk => (hP _ hk).1 rfl
    rw [h.lookup hk, appConfigIn, recordAt_of_stages h hk]
    exact hC.settings
  mint := hC.mint.stages h fun key hk => ⟨(hP key hk).2.1 _, (hP key hk).2.2 _⟩
  burn := hC.burn.stages h fun key hk => ⟨(hP key hk).2.1 _, (hP key hk).2.2 _⟩

theorem Catalog.bank {P : Bytes → Prop} (hC : Catalog tx.lookup mints burns) (h : tx.Stages P tx')
    (hP : ∀ key, P key → Bank.IsKey key) : Catalog tx'.lookup mints burns :=
  hC.stages h fun key hk => by
    rcases hP key hk with ⟨i, rfl⟩ | ⟨j, rfl⟩ <;> simp

theorem Catalog.restaged {key : Bytes} (hC : Catalog tx.lookup mints burns)
    (hk : key ≠ appConfigKey ∧ (∀ k, key ≠ indexKey k) ∧ ∀ k id, key ≠ recordKey k id) (v : Option Bytes) :
    Catalog (tx.restaged key v).lookup mints burns :=
  hC.stages (.restaged rfl v) fun _ h => h ▸ hk

theorem Catalog.putSettings (hC : Catalog tx.lookup mints burns) {c : AppConfig} (hc : c.rollingPeriodHours < 2 ^ 32) :
    Catalog (tx.restaged appConfigKey (some (encode (appConfigValue c)))).lookup mints burns where
  settings := .inr (by rw [appConfigIn, recordAt_restaged_encode (fits_appConfigValue hc)]; rfl)
  mint := hC.mint.stages (.restaged rfl _) (by rintro _ rfl; simp)
  burn := hC.burn.stages (.restaged rfl _) (by rintro _ rfl; simp)

theorem Catalog.putMintChannel {c : MintChannel} {u : Unit} (hC : Catalog tx.lookup mints burns) (hst : c.Storable)
    (hfit : mints.length < 2 ^ 58) (h : Txn.Returns (Channel.putMintChannel c) tx u tx') :
    Catalog tx'.lookup (if c.id ∈ mints then mints else mints ++ [c.id]) burns where
  settings := by
    have hk : ¬ (appConfigKey = recordKey .mint c.id ∨ appConfigKey = indexKey .mint) := by simp
    rw [(putMintChannel_stages h).lookup hk, appConfigIn, recordAt_of_stages (putMintChannel_stages h) hk]
    exact hC.settings
  mint := hC.mint.putMintChannel hst hfit h
  burn := hC.burn.stages (putMintChannel_stages h) (by rintro key (rfl | rfl) <;> simp)

theorem Catalog.putBurnChannel {c : BurnChannel} {u : Unit} (hC : Catalog tx.lookup mints burns) (hst : c.Storable)
    (hfit : burns.length < 2 ^ 58) (h : Txn.Returns (Channel.putBurnChannel c) tx u tx') :
    Catalog tx'.lookup mints (if c.id ∈ burns then burns else burns ++ [c.id]) where
  settings := by
    have hk : ¬ (appConfigKey = recordKey .burn c.id ∨ appConfigKey = indexKey .burn) := by simp
    rw [(putBurnChannel_stages h).lookup hk, appConfigIn, recordAt_of_stages (putBurnChannel_stages h) hk]
    exact hC.settings
  mint := hC.mint.stages (putBurnChannel_stages h) (by rintro key (rfl | rfl) <;> simp)
  burn := hC.burn.putBurnChannel hst hfit h

/-! ## Reading the listings back -/

theorem indexKey_ne_nil (k : Kind) : indexKey k ≠ [] := by
  cases k <;> simp [indexKey_eq]

theorem recordKey_ne_nil (k : Kind) (id : ChannelId) : recordKey k id ≠ [] := by
  cases k <;> simp [recordKey, recordPrefix_eq]

theorem appConfigKey_ne_nil : appConfigKey ≠ [] := by
  simp [appConfigKey_eq]

theorem readList_index (hraw : ∀ key, tx.raw key = .ok (tx.lookup key)) (hl : tx.lookup (indexKey k) = indexBytes ids)
    (hfit : ids.length < 2 ^ 58) : readList (indexKey k) tx = .ok (ids.map (·.bytes), tx) := by
  have hd : ∀ b, found tx (indexKey k) = some b → ∃ v, decode blobList b = .ok v := by
    intro b hb
    rw [found_index hl, indexBytes] at hb
    by_cases hids : ids = []
    · simp [hids] at hb
    · simp only [hids, if_false, Option.some.injEq] at hb
      subst hb
      exact ⟨_, decode_encode (fits_index hfit)⟩
  obtain ⟨xs, hxs⟩ := readList_returns (hraw _) (indexKey_ne_nil k) hd
  rw [hxs, index_read hxs hl hfit]

/-- Over a view, reading index `k` then each listed record returns the
listed channels' records in index order. -/
theorem listing_returns {α : Type} {get : ChannelId → Txn (Option α)} {f : ChannelId → Option α}
    (hraw : ∀ key, tx.raw key = .ok (tx.lookup key)) (hL : Listing tx.lookup k ids) (hfit : ids.length < 2 ^ 58)
    (hget : ∀ id ∈ ids, get id tx = .ok (f id, tx)) :
    (do
      let bs ← readList (indexKey k)
      let found ← bs.mapM fun b => get (idOfIndex b)
      pure (found.filterMap id) : Txn (List α)) tx = .ok (ids.filterMap f, tx) := by
  have hmap : (ids.map (·.bytes)).mapM (fun b => get (idOfIndex b)) tx = .ok (ids.map f, tx) := by
    rw [mapM_returns (g := fun b => f (idOfIndex b))]
    · simp [idOfIndex_bytes]
    · simp only [List.mem_map]
      rintro _ ⟨id, hid, rfl⟩
      rw [idOfIndex_bytes]
      exact hget id hid
  simp only [bind, StateT.bind, readList_index hraw hL.index hfit, Except.bind, hmap, pure, StateT.pure, Except.pure,
    List.filterMap_map]
  rfl

theorem mintChannel_eq (hraw : ∀ key, tx.raw key = .ok (tx.lookup key)) {id : ChannelId}
    (h : (mintChannelIn tx.lookup id).isSome) : mintChannel id tx = .ok (mintChannelIn tx.lookup id, tx) := by
  obtain ⟨r, hr⟩ := record_returns mintOf (hraw _) (recordKey_ne_nil .mint id) (decodes_of_recordAt h)
  obtain ⟨-, rfl⟩ := mintChannel_returns (show Returns (mintChannel id) tx r tx from hr)
  exact hr

theorem burnChannel_eq (hraw : ∀ key, tx.raw key = .ok (tx.lookup key)) {id : ChannelId}
    (h : (burnChannelIn tx.lookup id).isSome) : burnChannel id tx = .ok (burnChannelIn tx.lookup id, tx) := by
  obtain ⟨r, hr⟩ := record_returns burnOf (hraw _) (recordKey_ne_nil .burn id) (decodes_of_recordAt h)
  obtain ⟨-, rfl⟩ := burnChannel_returns (show Returns (burnChannel id) tx r tx from hr)
  exact hr

theorem Catalog.mintChannels (hraw : ∀ key, tx.raw key = .ok (tx.lookup key)) (hC : Catalog tx.lookup mints burns)
    (hm : mints.length < 2 ^ 58) : Channel.mintChannels tx = .ok (mints.filterMap (mintChannelIn tx.lookup), tx) :=
  listing_returns hraw hC.mint hm fun id hid =>
    mintChannel_eq hraw (by simpa [countersIn] using (hC.mint.stored id).mpr hid)

theorem Catalog.burnChannels (hraw : ∀ key, tx.raw key = .ok (tx.lookup key)) (hC : Catalog tx.lookup mints burns)
    (hb : burns.length < 2 ^ 58) : Channel.burnChannels tx = .ok (burns.filterMap (burnChannelIn tx.lookup), tx) :=
  listing_returns hraw hC.burn hb fun id hid =>
    burnChannel_eq hraw (by simpa [countersIn] using (hC.burn.stored id).mpr hid)

end

end Channel

namespace Engine

/-- The channel of kind `k` a step creates: the one its result names, when
the step creates a channel of that kind. -/
def Label.created (k : Kind) : Label → Option ChannelId
  | .op _ (.createMintChannel ..) r => if k = .mint then some r.1.id else none
  | .op _ (.createBurnChannel ..) r => if k = .burn then some r.1.id else none
  | _ => none

/-- The channels of kind `k` a run created, in the order it created them. -/
def created (k : Kind) (ℓs : List Label) : List ChannelId :=
  ℓs.filterMap (Label.created k)

theorem created_cons (k : Kind) (ℓ : Label) (ℓs : List Label) :
    created k (ℓ :: ℓs) = (ℓ.created k).toList ++ created k ℓs := by
  cases h : Label.created k ℓ <;> simp [created, h]

/-- A step sets no rolling period wider than 32 bits, the width every caller
of the engine reads it with. -/
def Label.PeriodFits : Label → Prop
  | .op _ (.setAppConfig hours) _ => hours < 2 ^ 32
  | _ => True

instance (ℓ : Label) : Decidable ℓ.PeriodFits :=
  match ℓ with
  | .op _ (.setAppConfig hours) _ => inferInstanceAs (Decidable (hours < 2 ^ 32))
  | .op _ (.createAppConfig _) _ | .op _ (.createAsset ..) _ | .op _ (.createFeed ..) _
  | .op _ (.submitRound ..) _ | .op _ (.openAccount ..) _ | .op _ (.createMintChannel ..) _
  | .op _ (.setMintChannel ..) _ | .op _ (.createBurnChannel _) _ | .op _ (.setBurnChannel ..) _
  | .op _ (.mint _) _ | .op _ (.burn _) _ | .op _ (.withdrawFee ..) _ | .op _ (.releaseAssetCustody ..) _
  | .call .. => isTrue trivial

/-- The sample history sets only periods that fit 32 bits. -/
theorem Sample.history_periodsFit :
    (Script.run Sample.engine (fun _ ℓ _ => decide ℓ.PeriodFits) Sample.history {}).isSome := by
  decide +kernel

end Engine

namespace Channel

section
variable {e : Engine} {ctx : Context} {tx tx' : Tx} {mints burns : List ChannelId}

theorem Catalog.op {o : Op} {r : o.Result × List Event} (hC : Catalog tx.lookup mints burns) (hs : Sound tx.lookup)
    (hctx : ctx.Typed) (ho : o.Typed) (hfits : (Label.op ctx o r).PeriodFits) (hm : mints.length < 2 ^ 58)
    (hb : burns.length < 2 ^ 58) (h : Returns (o.txn e ctx) tx r tx') :
    Catalog tx'.lookup (mints ++ ((Label.op ctx o r).created .mint).toList)
      (burns ++ ((Label.op ctx o r).created .burn).toList) := by
  cases o with
  | createAppConfig signer =>
    obtain ⟨-, rfl⟩ := createAppConfig_returns h
    simpa [Label.created] using hC.putSettings (show defaultRollingHours < 2 ^ 32 by decide)
  | setAppConfig hours =>
    obtain ⟨c, rfl, rfl⟩ := setAppConfig_returns h
    simpa [Label.created] using hC.putSettings hfits
  | createAsset id decimals authority =>
    obtain ⟨signer, -, h1⟩ := Engine.createAsset_returns h
    simpa [Label.created] using hC.bank (Bank.createAsset_stages h1) fun _ hk => hk
  | createFeed id description decimals =>
    obtain ⟨b, rfl⟩ := createFeed_returns h
    simpa [Label.created] using hC.restaged (by simp) _
  | submitRound id answer =>
    obtain ⟨i, b, rfl⟩ := submitRound_returns h
    simpa [Label.created] using hC.restaged (by simp) _
  | openAccount owner id asset =>
    simpa [Label.created] using hC.bank (Bank.openAccount_stages (Engine.openAccount_returns h)) fun _ hk => hk
  | createMintChannel path capacity =>
    obtain ⟨-, c, -, hst, -, -, hnone, h1, hr⟩ := createMintChannel_writes ho.1 ho.2 h
    -- the channel is new, so the index does not list it yet
    have hc : c.id ∉ mints := fun hc => by simpa [countersIn, hnone] using (hC.mint.stored c.id).mpr hc
    simpa [Label.created, hr, hc] using hC.putMintChannel hst hm h1
  | setMintChannel id s =>
    obtain ⟨-, c, c', -, hc, hid, hst, -, -, -, h1⟩ := setMintChannel_writes hs ho h
    -- the channel is stored, so the index lists it already
    have hl : c'.id ∈ mints := hid ▸ (hC.mint.stored c.id).mp (by simp [countersIn, hc])
    simpa [Label.created, hl] using hC.putMintChannel hst hm h1
  | createBurnChannel path =>
    obtain ⟨-, c, -, hst, -, -, hnone, h1, hr⟩ := createBurnChannel_writes ho h
    have hc : c.id ∉ burns := fun hc => by simpa [countersIn, hnone] using (hC.burn.stored c.id).mpr hc
    simpa [Label.created, hr, hc] using hC.putBurnChannel hst hb h1
  | setBurnChannel id s =>
    obtain ⟨-, c, c', -, hc, hid, hst, -, -, -, h1⟩ := setBurnChannel_writes hs ho h
    have hl : c'.id ∈ burns := hid ▸ (hC.burn.stored c.id).mp (by simp [countersIn, hc])
    simpa [Label.created, hl] using hC.putBurnChannel hst hb h1
  | mint req =>
    obtain ⟨c, c', signer, -, -, payout, legs, t1, t2, hc, hid, hst, -, -, -, -, -, -, h1, h2, h3⟩ :=
      mint_writes hs hctx h
    -- the legs and the issue write only the bank's records
    have hC2 := (hC.bank (transferLegs_stages h1) fun _ => accounts_isKey).bank (Bank.mintTo_stages h2)
      fun _ hk => hk
    have hl : c'.id ∈ mints := hid ▸ (hC.mint.stored c.id).mp (by simp [countersIn, hc])
    simpa [Label.created, hl] using hC2.putMintChannel hst hm h3
  | burn req =>
    obtain ⟨c, c', signer, -, cost, payout, t1, t2, t3, hc, hid, hst, -, -, -, -, h1, h2, h3, h4⟩ :=
      burn_writes hs hctx h
    -- the collection, the burn and the payout write only the bank's records
    have hC3 := ((hC.bank (Bank.transfer_stages h1) fun _ => accounts_isKey).bank (Bank.burn_stages h2)
      fun _ hk => hk).bank (Bank.transfer_stages h3) fun _ => accounts_isKey
    have hl : c'.id ∈ burns := hid ▸ (hC.burn.stored c.id).mp (by simp [countersIn, hc])
    simpa [Label.created, hl] using hC3.putBurnChannel hst hb h4
  | withdrawFee source destination amount =>
    obtain ⟨signer, src, h1⟩ := withdrawFee_returns h
    simpa [Label.created] using hC.bank (Bank.transfer_stages h1) fun _ => accounts_isKey
  | releaseAssetCustody asset next =>
    obtain ⟨signer, h1⟩ := releaseAssetCustody_returns h
    simpa [Label.created] using hC.bank (Bank.setMintAuthority_stages h1) fun _ hk => hk

end

end Channel

namespace Engine

section
variable {e : Engine} {S S' : Store} {mints burns : List ChannelId}

/-- A step keeps what the listings rely on, listing last the channel it
creates; a bank call writes none of it. -/
theorem Label.Step.catalog {ℓ : Label} (hS : Reachable e S) (hstep : ℓ.Step e S S') (hfits : ℓ.PeriodFits)
    (hC : Catalog S.get? mints burns) (hm : mints.length < 2 ^ 58) (hb : burns.length < 2 ^ 58) :
    Catalog S'.get? (mints ++ (ℓ.created .mint).toList) (burns ++ (ℓ.created .burn).toList) := by
  cases ℓ with
  | op ctx o r =>
    obtain ⟨hctx, ho, tx, tx', hl, hret, hl'⟩ := hstep.op_returns
    have hs : Sound tx.lookup := hl ▸ Sound.of_reachable hS
    rw [← hl] at hC
    rw [hl']
    exact hC.op hs hctx ho hfits hm hb hret
  | call c r =>
    obtain ⟨-, tx, tx', hl, -, hst, hl'⟩ := hstep.call_returns
    rw [← hl] at hC
    rw [hl']
    simpa [Label.created] using hC.bank hst fun _ hk => hk

/-- Along a run within the widths, the listings go on listing exactly the
stored channels, new ones last and in order. -/
theorem Run.catalog {ℓs : List Label} (h : Run e (fun _ ℓ _ => ℓ.PeriodFits) S ℓs S') (hS : Reachable e S)
    (hC : Catalog S.get? mints burns) (hm : mints.length + (created .mint ℓs).length < 2 ^ 58)
    (hb : burns.length + (created .burn ℓs).length < 2 ^ 58) :
    Catalog S'.get? (mints ++ created .mint ℓs) (burns ++ created .burn ℓs) := by
  induction h generalizing mints burns with
  | nil => simpa [created] using hC
  | @cons S S₁ S' ℓ ℓs hstep hok _ ih =>
    rw [created_cons, List.length_append] at hm hb
    have hC₁ := hstep.catalog hS hok hC (by omega) (by omega)
    have := ih (hstep.reachable hS) hC₁ (by rw [List.length_append]; omega) (by rw [List.length_append]; omega)
    simpa [created_cons] using this

theorem Catalog.of_run {ℓs : List Label} (h : Run e (fun _ ℓ _ => ℓ.PeriodFits) {} ℓs S)
    (hm : (created .mint ℓs).length < 2 ^ 58) (hb : (created .burn ℓs).length < 2 ^ 58) :
    Catalog S.get? (created .mint ℓs) (created .burn ℓs) := by
  simpa using h.catalog .refl Catalog.empty (by simpa using hm) (by simpa using hb)

end

section
variable {mints burns : List ChannelId}

theorem rollingHours_returns {tx : Tx} (hraw : ∀ key, tx.raw key = .ok (tx.lookup key))
    (hset : tx.lookup appConfigKey = none ∨ (appConfigIn tx.lookup).isSome) :
    ∃ hours, rollingHours tx = .ok (hours, tx) := by
  have hd : ∀ b, found tx appConfigKey = some b → ∃ v, decode appConfigShape b = .ok v := by
    rcases hset with hnone | hsome
    · intro b hb
      rw [found_eq_none hnone] at hb
      cases hb
    · exact decodes_of_recordAt hsome
  obtain ⟨r, hr⟩ := record_returns appConfigOf (hraw _) appConfigKey_ne_nil hd
  have hm : Txn.mapFault (Fault.within "load app config") Channel.appConfig tx = .ok (r, tx) :=
    returns_mapFault.mpr hr
  unfold rollingHours
  simp only [bind, StateT.bind, hm, Except.bind]
  split <;> exact ⟨_, rfl⟩

/-- Listing the mint channels of a committed store the listings can rely on
returns the listed ones, in the index's order, each with its headroom. -/
theorem listMintChannels_view {S : Store} (hC : Catalog S.get? mints burns) (hm : mints.length < 2 ^ 58)
    (now : Int) : ∃ hours, runView { store := S } (listMintChannels now) =
      .ok ((mints.filterMap (mintChannelIn S.get?)).map fun c => (c, remaining c.counters hours now)) := by
  have hraw := Tx.raw_of_db (show ({ db := { store := S }, readOnly := true } : Tx).db = { store := S } from rfl)
  have hl : ({ db := { store := S }, readOnly := true } : Tx).lookup = S.get? := Tx.lookup_view _
  rw [← hl] at hC ⊢
  obtain ⟨hours, hh⟩ := rollingHours_returns hraw hC.settings
  refine ⟨hours, ?_⟩
  simp only [runView, view, listMintChannels, bind, StateT.bind, hC.mintChannels hraw hm, hh, Except.bind, pure,
    StateT.pure, Except.pure]

theorem listBurnChannels_view {S : Store} (hC : Catalog S.get? mints burns) (hb : burns.length < 2 ^ 58)
    (now : Int) : ∃ hours, runView { store := S } (listBurnChannels now) =
      .ok ((burns.filterMap (burnChannelIn S.get?)).map fun c => (c, remaining c.counters hours now)) := by
  have hraw := Tx.raw_of_db (show ({ db := { store := S }, readOnly := true } : Tx).db = { store := S } from rfl)
  have hl : ({ db := { store := S }, readOnly := true } : Tx).lookup = S.get? := Tx.lookup_view _
  rw [← hl] at hC ⊢
  obtain ⟨hours, hh⟩ := rollingHours_returns hraw hC.settings
  refine ⟨hours, ?_⟩
  simp only [runView, view, listBurnChannels, bind, StateT.bind, hC.burnChannels hraw hb, hh, Except.bind, pure,
    StateT.pure, Except.pure]

/-- Reading identifiers each of which `f` finds under itself gives one record
for each, in order, each found under its own identifier. -/
theorem filterMap_found {α : Type} {f : ChannelId → Option α} {idOf : α → ChannelId} {ids : List ChannelId}
    (h : ∀ id ∈ ids, ∃ c, f id = some c ∧ idOf c = id) :
    (ids.filterMap f).map idOf = ids ∧ ∀ c ∈ ids.filterMap f, f (idOf c) = some c := by
  induction ids with
  | nil => simp
  | cons id ids ih =>
    obtain ⟨c, hc, rfl⟩ := h id List.mem_cons_self
    obtain ⟨ih₁, ih₂⟩ := ih fun j hj => h j (List.mem_cons_of_mem _ hj)
    rw [List.filterMap_cons_some hc]
    refine ⟨by rw [List.map_cons, ih₁], fun c' hc' => ?_⟩
    rcases List.mem_cons.mp hc' with rfl | hc'
    · exact hc
    · exact ih₂ c' hc'

/-- On stores reachable from empty, within the widths, created channels
are distinct, stored, and listed once each in order. -/
theorem channels_listed_in_creation_order {e : Engine} {ℓs : List Label} {S : Store}
    (h : Run e (fun _ ℓ _ => ℓ.PeriodFits) {} ℓs S)
    (hm : (created .mint ℓs).length < 2 ^ 58) (hb : (created .burn ℓs).length < 2 ^ 58) (now : Int) :
    (created .mint ℓs).Nodup ∧ (created .burn ℓs).Nodup ∧
      (∀ id, (mintChannelIn S.get? id).isSome ↔ id ∈ created .mint ℓs) ∧
      (∀ id, (burnChannelIn S.get? id).isSome ↔ id ∈ created .burn ℓs) ∧
      (∃ ps, runView { store := S } (listMintChannels now) = .ok ps ∧
        ps.map (·.1.id) = created .mint ℓs ∧ ∀ p ∈ ps, mintChannelIn S.get? p.1.id = some p.1) ∧
      ∃ ps, runView { store := S } (listBurnChannels now) = .ok ps ∧
        ps.map (·.1.id) = created .burn ℓs ∧ ∀ p ∈ ps, burnChannelIn S.get? p.1.id = some p.1 := by
  have hC := Catalog.of_run h hm hb
  have hs := Sound.of_reachable (h.reachable .refl)
  -- each listed identifier holds the channel of that identifier
  have hmint : ∀ id ∈ created .mint ℓs, ∃ c, mintChannelIn S.get? id = some c ∧ c.id = id := fun id hid => by
    obtain ⟨c, hc⟩ := Option.isSome_iff_exists.mp (by simpa [countersIn] using (hC.mint.stored id).mpr hid)
    exact ⟨c, hc, (hs.mint id c hc).1⟩
  have hburn : ∀ id ∈ created .burn ℓs, ∃ c, burnChannelIn S.get? id = some c ∧ c.id = id := fun id hid => by
    obtain ⟨c, hc⟩ := Option.isSome_iff_exists.mp (by simpa [countersIn] using (hC.burn.stored id).mpr hid)
    exact ⟨c, hc, (hs.burn id c hc).1⟩
  obtain ⟨hmids, hmfound⟩ := filterMap_found hmint
  obtain ⟨hbids, hbfound⟩ := filterMap_found hburn
  obtain ⟨_, hmlist⟩ := listMintChannels_view hC hm now
  obtain ⟨_, hblist⟩ := listBurnChannels_view hC hb now
  refine ⟨hC.mint.nodup, hC.burn.nodup, fun id => ?_, fun id => ?_, ⟨_, hmlist, ?_, ?_⟩, ⟨_, hblist, ?_, ?_⟩⟩
  · simpa [countersIn] using hC.mint.stored id
  · simpa [countersIn] using hC.burn.stored id
  · simpa [Function.comp_def] using hmids
  · simp only [List.mem_map]
    rintro _ ⟨c, hc, rfl⟩
    exact hmfound c hc
  · simpa [Function.comp_def] using hbids
  · simp only [List.mem_map]
    rintro _ ⟨c, hc, rfl⟩
    exact hbfound c hc

/-- After the sample history each listing returns the channels it created. -/
theorem channels_listed_after_trade :
    Run Sample.engine (fun _ ℓ _ => ℓ.PeriodFits) {} (Script.labels Sample.engine Sample.history {}) Sample.traded ∧
      (created .mint (Script.labels Sample.engine Sample.history {})).length < 2 ^ 58 ∧ (created .burn (Script.labels Sample.engine Sample.history {})).length < 2 ^ 58 ∧
      (created .mint (Script.labels Sample.engine Sample.history {})).Nodup ∧ (created .burn (Script.labels Sample.engine Sample.history {})).Nodup ∧
      (∀ id, (mintChannelIn Sample.traded.get? id).isSome ↔ id ∈ created .mint (Script.labels Sample.engine Sample.history {})) ∧
      (∀ id, (burnChannelIn Sample.traded.get? id).isSome ↔ id ∈ created .burn (Script.labels Sample.engine Sample.history {})) ∧
      (∃ ps, runView { store := Sample.traded } (listMintChannels 1700000240) = .ok ps ∧
        ps.map (·.1.id) = created .mint (Script.labels Sample.engine Sample.history {}) ∧ ∀ p ∈ ps, mintChannelIn Sample.traded.get? p.1.id = some p.1) ∧
      ∃ ps, runView { store := Sample.traded } (listBurnChannels 1700000240) = .ok ps ∧
        ps.map (·.1.id) = created .burn (Script.labels Sample.engine Sample.history {}) ∧ ∀ p ∈ ps, burnChannelIn Sample.traded.get? p.1.id = some p.1 := by
  have h := Sample.history_periodsFit
  have hrun : Run Sample.engine (fun _ ℓ _ => ℓ.PeriodFits) {} (Script.labels Sample.engine Sample.history {}) Sample.traded := by
    have hr := Script.run_decide h
    rwa [(Sample.stages h).2.2.2.2.2.2] at hr
  -- a run creates at most one channel a step
  have hlen : ∀ k, (created k (Script.labels Sample.engine Sample.history {})).length < 2 ^ 58 := fun k =>
    calc (created k (Script.labels Sample.engine Sample.history {})).length ≤ (Script.labels Sample.engine Sample.history {}).length := List.length_filterMap_le _ _
      _ = Sample.history.length := Script.length_run (Script.run_eq h)
      _ < 2 ^ 58 := by decide
  exact ⟨hrun, hlen .mint, hlen .burn, channels_listed_in_creation_order hrun (hlen .mint) (hlen .burn) _⟩

end

end Engine

end Issuance
