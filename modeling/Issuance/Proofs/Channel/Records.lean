import Mathlib
import Issuance.Proofs.Bank.Records
/-! # Channels as stored

`mintChannelIn L id` and `burnChannelIn L id` are what a reader finds under
an identifier. A channel fitting its widths reads back as written but for
the unsigned anchor (`Counters.reread`). -/
namespace Issuance

open Store Rlp Channel

/-- The counters as they read back: the anchor passes through its unsigned
stored form. -/
def Counters.reread (c : Counters) : Counters := { c with periodAnchor := signedOf (storedAnchor c.periodAnchor) }

@[simp] theorem Counters.reread_lifetimeIssued (c : Counters) : c.reread.lifetimeIssued = c.lifetimeIssued := rfl
@[simp] theorem Counters.reread_lifetimeCap (c : Counters) : c.reread.lifetimeCap = c.lifetimeCap := rfl
@[simp] theorem Counters.reread_periodIssued (c : Counters) : c.reread.periodIssued = c.periodIssued := rfl
@[simp] theorem Counters.reread_periodCap (c : Counters) : c.reread.periodCap = c.periodCap := rfl
@[simp] theorem Counters.reread_accumulatedFee (c : Counters) : c.reread.accumulatedFee = c.accumulatedFee := rfl

/-- Counters that their stored form holds. -/
structure Counters.Storable (c : Counters) : Prop where
  lifetimeIssued : c.lifetimeIssued < Amount.bound
  lifetimeCap : c.lifetimeCap < Amount.bound
  periodIssued : c.periodIssued < Amount.bound
  periodCap : c.periodCap < Amount.bound
  periodAnchor : storedAnchor c.periodAnchor < Amount.bound
  accumulatedFee : c.accumulatedFee < Amount.bound

/-- A leg that its stored form holds exactly. -/
structure Leg.Storable (l : Leg) : Prop where
  asset : Text.Short l.asset
  decimals : l.decimals < 2 ^ 16
  weightBps : l.weightBps < 2 ^ 16
  priceFeed : Text.Short l.priceFeed

/-- A mint channel that its stored form holds, up to the anchor. -/
structure MintChannel.Storable (c : MintChannel) : Prop where
  path : Text.Short c.path
  capacity : c.capacity < 2 ^ 16
  legs : c.basket.length < 2 ^ 16
  basket : ∀ l ∈ c.basket, l.Storable
  feeBps : c.feeBps < 2 ^ 16
  minRequestAmount : c.minRequestAmount < Amount.bound
  counters : c.counters.Storable

/-- A burn channel that its stored form holds, up to the anchor. -/
structure BurnChannel.Storable (c : BurnChannel) : Prop where
  path : Text.Short c.path
  outputAsset : Text.Short c.outputAsset
  outputDecimals : c.outputDecimals < 2 ^ 16
  outputFeed : Text.Short c.outputFeed
  feeBps : c.feeBps < 2 ^ 16
  minRequestAmount : c.minRequestAmount < Amount.bound
  counters : c.counters.Storable

namespace Channel

/-- The mint channel under an identifier in the view `L`. -/
def mintChannelIn (L : Bytes → Option Bytes) (id : ChannelId) : Option MintChannel :=
  recordAt mintShape mintOf L (recordKey .mint id)

/-- The burn channel under an identifier in the view `L`. -/
def burnChannelIn (L : Bytes → Option Bytes) (id : ChannelId) : Option BurnChannel :=
  recordAt burnShape burnOf L (recordKey .burn id)

/-- The engine settings in the view `L`. -/
def appConfigIn (L : Bytes → Option Bytes) : Option AppConfig :=
  recordAt appConfigShape appConfigOf L appConfigKey

/-! ## Reading back what was written -/

@[simp] theorem textOf_bytes (s : String) : textOf (.bytes (Bytes.ofString s)) = s := by
  simp [textOf]

@[simp] theorem idOf_bytes (id : ChannelId) : idOf (.bytes id.bytes) = id := by
  simp [idOf, bytesOf, ChannelId.ofBytes?, id.size]

@[simp] theorem legOf_legValue (l : Leg) : legOf (legValue l) = l := by
  simp [legOf, legValue, numOf]

theorem countersOf_countersValue (c : Counters) : countersOf (countersValue c) = c.reread := by
  simp [countersOf, countersValue, numOf, Counters.reread]

theorem mintOf_mintValue (c : MintChannel) : mintOf (mintValue c) = { c with counters := c.counters.reread } := by
  simp [mintOf, mintValue, flagOf, numOf, countersOf_countersValue, Function.comp_def]

theorem burnOf_burnValue (c : BurnChannel) : burnOf (burnValue c) = { c with counters := c.counters.reread } := by
  simp [burnOf, burnValue, flagOf, numOf, countersOf_countersValue]

/-! ## Fitting the shapes -/

theorem fits_legValue {l : Leg} (h : l.Storable) :
    Fits legShape (legValue l) ∧ (encode (legValue l)).length ≤ 2 ^ 34 := by
  have ha : (Bytes.ofString l.asset).length < 2 ^ 32 := h.asset
  have hf : (Bytes.ofString l.priceFeed).length < 2 ^ 32 := h.priceFeed
  have h1 := length_encodeBytes_le (Bank.length_ofString_lt h.asset)
  have h2 := length_encode_num_le (n := l.decimals) (by have := h.decimals; omega)
  have h3 := length_encode_num_le (n := l.weightBps) (by have := h.weightBps; omega)
  have h4 := length_encodeBytes_le (Bank.length_ofString_lt h.priceFeed)
  have hp : (encodeAll [.bytes (Bytes.ofString l.asset), .num l.decimals, .num l.weightBps,
      .bytes (Bytes.ofString l.priceFeed)]).length ≤ 2 ^ 33 + 36 := by
    simp only [encodeAll, List.length_append, List.length_nil, encode] at h2 h3 ⊢
    omega
  refine ⟨fits_record rfl ?_ (by omega), ?_⟩
  · simp only [List.zip_cons_cons, List.zip_nil_right, List.forall_mem_cons, List.not_mem_nil,
      IsEmpty.forall_iff, implies_true, and_true]
    exact ⟨fits_text _ (Bank.length_ofString_lt h.asset), fits_uint16 h.decimals, fits_uint16 h.weightBps,
      fits_text _ (Bank.length_ofString_lt h.priceFeed)⟩
  · have := @length_encode_items_le ([.bytes (Bytes.ofString l.asset), .num l.decimals, .num l.weightBps,
      .bytes (Bytes.ofString l.priceFeed)]) (by omega)
    simp only [legValue]
    omega

theorem fits_countersValue {c : Counters} (h : c.Storable) :
    Fits countersShape (countersValue c) ∧ (encode (countersValue c)).length ≤ 63 := by
  have h1 := length_encode_num_le h.lifetimeIssued
  have h2 := length_encode_num_le h.lifetimeCap
  have h3 := length_encode_num_le h.periodIssued
  have h4 := length_encode_num_le h.periodCap
  have h5 := length_encode_num_le h.periodAnchor
  have h6 := length_encode_num_le h.accumulatedFee
  have hp : (encodeAll [.num c.lifetimeIssued, .num c.lifetimeCap, .num c.periodIssued, .num c.periodCap,
      .num (storedAnchor c.periodAnchor), .num c.accumulatedFee]).length ≤ 54 := by
    simp only [encodeAll, List.length_append, List.length_nil] at h1 h2 h3 h4 h5 h6 ⊢
    omega
  refine ⟨fits_record rfl ?_ (by omega), ?_⟩
  · simp only [List.zip_cons_cons, List.zip_nil_right, List.forall_mem_cons, List.not_mem_nil,
      IsEmpty.forall_iff, implies_true, and_true]
    exact ⟨fits_uint64 h.lifetimeIssued, fits_uint64 h.lifetimeCap, fits_uint64 h.periodIssued,
      fits_uint64 h.periodCap, fits_uint64 h.periodAnchor, fits_uint64 h.accumulatedFee⟩
  · have := @length_encode_items_le ([.num c.lifetimeIssued, .num c.lifetimeCap, .num c.periodIssued,
      .num c.periodCap, .num (storedAnchor c.periodAnchor), .num c.accumulatedFee]) (by omega)
    simp only [countersValue]
    omega

theorem fits_basket {ls : List Leg} (hn : ls.length < 2 ^ 16) (h : ∀ l ∈ ls, l.Storable) :
    Fits (.seq legShape "[]factory.storedLeg") (.items (ls.map legValue)) ∧
      (encode (.items (ls.map legValue))).length ≤ 2 ^ 51 := by
  have hsum : (encodeAll (ls.map legValue)).length ≤ ls.length * 2 ^ 34 := by
    rw [length_encodeAll, List.map_map]
    have := List.sum_le_card_nsmul (ls.map ((fun v => (encode v).length) ∘ legValue)) (2 ^ 34) (by
      intro n hn
      obtain ⟨l, hl, rfl⟩ := List.mem_map.mp hn
      exact (fits_legValue (h l hl)).2)
    simpa using this
  have hp : (encodeAll (ls.map legValue)).length < 2 ^ 50 := by
    have : ls.length * 2 ^ 34 < 2 ^ 50 := by
      calc ls.length * 2 ^ 34 < 2 ^ 16 * 2 ^ 34 := Nat.mul_lt_mul_of_pos_right hn (by norm_num)
        _ = 2 ^ 50 := by norm_num
    omega
  refine ⟨fits_seq (fun v hv => ?_) (by omega), ?_⟩
  · obtain ⟨l, hl, rfl⟩ := List.mem_map.mp hv
    exact (fits_legValue (h l hl)).1
  · have := @length_encode_items_le (ls.map legValue) (by omega)
    omega

theorem fits_mintValue {c : MintChannel} (h : c.Storable) : Fits mintShape (mintValue c) := by
  obtain ⟨hb, hbl⟩ := fits_basket h.legs h.basket
  obtain ⟨hc, hcl⟩ := fits_countersValue h.counters
  have h1 := length_encode_bytes_le (b := c.id.bytes) (by rw [c.id.size]; norm_num)
  have h2 := length_encode_bytes_le (Bank.length_ofString_lt h.path)
  have h3 := length_encode_num_le (n := c.capacity) (by have := h.capacity; omega)
  have h4 := length_encode_num_le (n := c.feeBps) (by have := h.feeBps; omega)
  have h5 := length_encode_num_le h.minRequestAmount
  have hpath : (Bytes.ofString c.path).length < 2 ^ 32 := h.path
  rw [c.id.size] at h1
  refine fits_record rfl ?_ ?_
  · simp only [List.zip_cons_cons, List.zip_nil_right, List.forall_mem_cons, List.not_mem_nil,
      IsEmpty.forall_iff, implies_true, and_true]
    exact ⟨.fixed c.id.size (by decide), fits_text _ (Bank.length_ofString_lt h.path), .bool c.active,
      fits_uint16 h.capacity, hb, fits_uint16 h.feeBps, fits_uint64 h.minRequestAmount, hc⟩
  · have h6 := length_encode_flag c.active
    simp only [encodeAll, List.length_append, List.length_nil]
    omega

theorem fits_burnValue {c : BurnChannel} (h : c.Storable) : Fits burnShape (burnValue c) := by
  obtain ⟨hc, hcl⟩ := fits_countersValue h.counters
  have h1 := length_encode_bytes_le (b := c.id.bytes) (by rw [c.id.size]; norm_num)
  have h2 := length_encode_bytes_le (Bank.length_ofString_lt h.path)
  have h3 := length_encode_bytes_le (Bank.length_ofString_lt h.outputAsset)
  have h4 := length_encode_num_le (n := c.outputDecimals) (by have := h.outputDecimals; omega)
  have h5 := length_encode_bytes_le (Bank.length_ofString_lt h.outputFeed)
  have h6 := length_encode_num_le (n := c.feeBps) (by have := h.feeBps; omega)
  have h7 := length_encode_num_le h.minRequestAmount
  have hpath : (Bytes.ofString c.path).length < 2 ^ 32 := h.path
  have hout : (Bytes.ofString c.outputAsset).length < 2 ^ 32 := h.outputAsset
  have hfeed : (Bytes.ofString c.outputFeed).length < 2 ^ 32 := h.outputFeed
  rw [c.id.size] at h1
  refine fits_record rfl ?_ ?_
  · simp only [List.zip_cons_cons, List.zip_nil_right, List.forall_mem_cons, List.not_mem_nil,
      IsEmpty.forall_iff, implies_true, and_true]
    exact ⟨.fixed c.id.size (by decide), fits_text _ (Bank.length_ofString_lt h.path), .bool c.active,
      fits_text _ (Bank.length_ofString_lt h.outputAsset), fits_uint16 h.outputDecimals,
      fits_text _ (Bank.length_ofString_lt h.outputFeed), fits_uint16 h.feeBps, fits_uint64 h.minRequestAmount, hc⟩
  · have h8 := length_encode_flag c.active
    simp only [encodeAll, List.length_append, List.length_nil]
    omega

/-! ## Reading and writing the views -/

theorem fits_appConfigValue {c : AppConfig} (h : c.rollingPeriodHours < 2 ^ 32) :
    Fits appConfigShape (appConfigValue c) := by
  have h1 := length_encode_num_le (n := c.rollingPeriodHours) (by omega)
  have h2 := length_encode_bytes_le (b := c.custodialSigner.bytes) (by rw [c.custodialSigner.size]; norm_num)
  rw [c.custodialSigner.size] at h2
  refine fits_record rfl ?_ ?_
  · simp only [List.zip_cons_cons, List.zip_nil_right, List.forall_mem_cons,
      List.not_mem_nil, IsEmpty.forall_iff, implies_true, and_true]
    exact ⟨fits_uint (by norm_num) (by norm_num at h ⊢; omega), .fixed c.custodialSigner.size (by decide)⟩
  · simp only [encodeAll, List.length_append, List.length_nil]
    omega

section
variable {tx tx' : Tx} {id : ChannelId} {k : Bytes} {v : Option Bytes}

theorem mintChannelIn_restaged_of_ne (h : recordKey .mint id ≠ k) :
    mintChannelIn (tx.restaged k v).lookup id = mintChannelIn tx.lookup id :=
  recordAt_restaged_of_ne h v

theorem burnChannelIn_restaged_of_ne (h : recordKey .burn id ≠ k) :
    burnChannelIn (tx.restaged k v).lookup id = burnChannelIn tx.lookup id :=
  recordAt_restaged_of_ne h v

theorem mintChannelIn_restaged_mint {c : MintChannel} (h : c.Storable) (j i : ChannelId) :
    mintChannelIn (tx.restaged (recordKey .mint j) (some (encode (mintValue c)))).lookup i =
      if i = j then some { c with counters := c.counters.reread } else mintChannelIn tx.lookup i := by
  split
  · rename_i hi
    subst hi
    rw [mintChannelIn, recordAt_restaged_encode (fits_mintValue h), mintOf_mintValue]
  · rename_i hi
    exact mintChannelIn_restaged_of_ne (by simpa using hi)

theorem burnChannelIn_restaged_burn {c : BurnChannel} (h : c.Storable) (j i : ChannelId) :
    burnChannelIn (tx.restaged (recordKey .burn j) (some (encode (burnValue c)))).lookup i =
      if i = j then some { c with counters := c.counters.reread } else burnChannelIn tx.lookup i := by
  split
  · rename_i hi
    subst hi
    rw [burnChannelIn, recordAt_restaged_encode (fits_burnValue h), burnOf_burnValue]
  · rename_i hi
    exact burnChannelIn_restaged_of_ne (by simpa using hi)

theorem mintChannel_returns {r : Option MintChannel} (h : Txn.Returns (Channel.mintChannel id) tx r tx') :
    tx' = tx ∧ r = mintChannelIn tx.lookup id := by
  unfold Channel.mintChannel at h
  obtain ⟨v, t1, hv, h1⟩ := Txn.Returns.bind h
  obtain ⟨rfl, hrec⟩ := hv.read_record mintOf
  obtain ⟨rfl, rfl⟩ := Txn.Returns.pure h1
  exact ⟨rfl, hrec⟩

theorem burnChannel_returns {r : Option BurnChannel} (h : Txn.Returns (Channel.burnChannel id) tx r tx') :
    tx' = tx ∧ r = burnChannelIn tx.lookup id := by
  unfold Channel.burnChannel at h
  obtain ⟨v, t1, hv, h1⟩ := Txn.Returns.bind h
  obtain ⟨rfl, hrec⟩ := hv.read_record burnOf
  obtain ⟨rfl, rfl⟩ := Txn.Returns.pure h1
  exact ⟨rfl, hrec⟩

theorem appConfig_returns {r : Option AppConfig} (h : Txn.Returns Channel.appConfig tx r tx') :
    tx' = tx ∧ r = appConfigIn tx.lookup := by
  unfold Channel.appConfig at h
  obtain ⟨v, t1, hv, h1⟩ := Txn.Returns.bind h
  obtain ⟨rfl, hrec⟩ := hv.read_record appConfigOf
  obtain ⟨rfl, rfl⟩ := Txn.Returns.pure h1
  exact ⟨rfl, hrec⟩

theorem appConfigIn_restaged_of_ne (h : appConfigKey ≠ k) : appConfigIn (tx.restaged k v).lookup = appConfigIn tx.lookup :=
  recordAt_restaged_of_ne h v

theorem putAppConfig_returns {c : AppConfig} {u : Unit} (h : Txn.Returns (putAppConfig c) tx u tx') :
    tx' = tx.restaged appConfigKey (some (encode (appConfigValue c))) :=
  h.write.2.2

theorem putMintChannel_returns {c : MintChannel} {u : Unit} (h : Txn.Returns (putMintChannel c) tx u tx') :
    c.id.isZero = false ∧
      Txn.Returns (Txn.append (indexKey .mint) c.id.bytes)
        (tx.restaged (recordKey .mint c.id) (some (encode (mintValue c)))) () tx' := by
  unfold putMintChannel at h
  obtain ⟨hz, h1⟩ := Txn.Returns.guard h
  obtain ⟨t, h2, h3⟩ := Txn.Returns.seq h1
  obtain ⟨-, -, rfl⟩ := h2.write
  exact ⟨by simpa using hz, h3⟩

theorem putBurnChannel_returns {c : BurnChannel} {u : Unit} (h : Txn.Returns (putBurnChannel c) tx u tx') :
    c.id.isZero = false ∧
      Txn.Returns (Txn.append (indexKey .burn) c.id.bytes)
        (tx.restaged (recordKey .burn c.id) (some (encode (burnValue c)))) () tx' := by
  unfold putBurnChannel at h
  obtain ⟨hz, h1⟩ := Txn.Returns.guard h
  obtain ⟨t, h2, h3⟩ := Txn.Returns.seq h1
  obtain ⟨-, -, rfl⟩ := h2.write
  exact ⟨by simpa using hz, h3⟩

theorem putMintChannel_stages {c : MintChannel} {u : Unit} (h : Txn.Returns (putMintChannel c) tx u tx') :
    tx.Stages (fun k => k = recordKey .mint c.id ∨ k = indexKey .mint) tx' := by
  obtain ⟨-, h1⟩ := putMintChannel_returns h
  rcases h1.append.2 with rfl | ⟨b, -, rfl⟩
  · exact Tx.Stages.restaged (.inl rfl) _
  · exact (Tx.Stages.restaged (.inl rfl) _).trans (Tx.Stages.restaged (.inr rfl) _)

theorem putBurnChannel_stages {c : BurnChannel} {u : Unit} (h : Txn.Returns (putBurnChannel c) tx u tx') :
    tx.Stages (fun k => k = recordKey .burn c.id ∨ k = indexKey .burn) tx' := by
  obtain ⟨-, h1⟩ := putBurnChannel_returns h
  rcases h1.append.2 with rfl | ⟨b, -, rfl⟩
  · exact Tx.Stages.restaged (.inl rfl) _
  · exact (Tx.Stages.restaged (.inl rfl) _).trans (Tx.Stages.restaged (.inr rfl) _)

theorem mintChannelIn_putMintChannel {c : MintChannel} {u : Unit} (hst : c.Storable)
    (h : Txn.Returns (putMintChannel c) tx u tx') (i : ChannelId) :
    mintChannelIn tx'.lookup i =
      if i = c.id then some { c with counters := c.counters.reread } else mintChannelIn tx.lookup i := by
  obtain ⟨-, h1⟩ := putMintChannel_returns h
  rcases h1.append.2 with rfl | ⟨b, -, rfl⟩
  · exact mintChannelIn_restaged_mint hst c.id i
  · rw [mintChannelIn_restaged_of_ne (by simp)]
    exact mintChannelIn_restaged_mint hst c.id i

theorem burnChannelIn_putBurnChannel {c : BurnChannel} {u : Unit} (hst : c.Storable)
    (h : Txn.Returns (putBurnChannel c) tx u tx') (i : ChannelId) :
    burnChannelIn tx'.lookup i =
      if i = c.id then some { c with counters := c.counters.reread } else burnChannelIn tx.lookup i := by
  obtain ⟨-, h1⟩ := putBurnChannel_returns h
  rcases h1.append.2 with rfl | ⟨b, -, rfl⟩
  · exact burnChannelIn_restaged_burn hst c.id i
  · rw [burnChannelIn_restaged_of_ne (by simp)]
    exact burnChannelIn_restaged_burn hst c.id i

end

end Channel

end Issuance
