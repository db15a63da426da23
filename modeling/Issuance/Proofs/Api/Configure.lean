import Mathlib
import Issuance.Proofs.Api.Reapply
/-! # What an application of a manifest configures

After a successful application every declared channel is stored, and a
channel or feed missing when it began carries its entry's settings. Each
step writes only its own entry's records (`WritesIn`), so only an entry's
own step changes its key (`Trail.own_step`). -/
namespace Issuance

open Store Bank Channel Engine Api

/-! ## The settings a channel carries -/

/-- The settings a mint channel carries. -/
def MintChannel.settings (c : MintChannel) : MintSettings :=
  ⟨c.active, c.basket, c.feeBps, ⟨c.counters.lifetimeCap, c.counters.periodCap, c.minRequestAmount⟩⟩

/-- The settings a burn channel carries. -/
def BurnChannel.settings (c : BurnChannel) : BurnSettings :=
  ⟨c.active, c.outputAsset, c.outputDecimals, c.outputFeed, c.feeBps,
    ⟨c.counters.lifetimeCap, c.counters.periodCap, c.minRequestAmount⟩⟩

/-- Mint settings as stored: the basket's assets and feeds trimmed. -/
def MintSettings.trimmed (s : MintSettings) : MintSettings :=
  { s with basket := s.basket.map fun l => { l with asset := Text.trim l.asset, priceFeed := Text.trim l.priceFeed } }

/-- Burn settings as stored: the output asset and feed trimmed. -/
def BurnSettings.trimmed (s : BurnSettings) : BurnSettings :=
  { s with outputAsset := Text.trim s.outputAsset, outputFeed := Text.trim s.outputFeed }

/-! ## Writes confined to some keys -/

/-- From `L` to `L'` nothing changed outside the keys of `K`. -/
def WritesIn (K : Bytes → Prop) (L L' : Bytes → Option Bytes) : Prop :=
  ∀ k, ¬ K k → L' k = L k

namespace WritesIn

variable {K K' : Bytes → Prop} {L L' L'' : Bytes → Option Bytes}

theorem refl (K : Bytes → Prop) (L : Bytes → Option Bytes) : WritesIn K L L := fun _ _ => rfl

theorem trans (h : WritesIn K L L') (h' : WritesIn K' L' L'') : WritesIn (fun k => K k ∨ K' k) L L'' :=
  fun k hk => (h' k fun hk' => hk (.inr hk')).trans (h k fun hk' => hk (.inl hk'))

theorem mono (h : WritesIn K L L') (hK : ∀ k, K k → K' k) : WritesIn K' L L' :=
  fun k hk => h k fun hk' => hk (hK k hk')

theorem of_stages {P : Bytes → Prop} {tx tx' : Tx} (h : tx.Stages P tx') : WritesIn P tx.lookup tx'.lookup :=
  fun _ hk => h.lookup hk

theorem mintChannelIn (h : WritesIn K L L') {i : ChannelId} (hk : ¬ K (recordKey .mint i)) :
    mintChannelIn L' i = mintChannelIn L i := by
  unfold Channel.mintChannelIn recordAt
  rw [h _ hk]

theorem burnChannelIn (h : WritesIn K L L') {i : ChannelId} (hk : ¬ K (recordKey .burn i)) :
    burnChannelIn L' i = burnChannelIn L i := by
  unfold Channel.burnChannelIn recordAt
  rw [h _ hk]

end WritesIn

/-! ## The stores a run over entries passes through -/

/-- The stores a run over `xs` passes through, each step related by `R`. -/
inductive Trail {α : Type} (R : α → (Bytes → Option Bytes) → (Bytes → Option Bytes) → Prop) :
    List α → (Bytes → Option Bytes) → (Bytes → Option Bytes) → Prop
  | nil (L : Bytes → Option Bytes) : Trail R [] L L
  | cons {x : α} {xs : List α} {L L₁ L' : Bytes → Option Bytes} : R x L L₁ → Trail R xs L₁ L' → Trail R (x :: xs) L L'

namespace Trail

variable {α : Type} {R : α → (Bytes → Option Bytes) → (Bytes → Option Bytes) → Prop} {xs : List α}
  {L L' : Bytes → Option Bytes}

theorem writes {K : α → Bytes → Prop} (hR : ∀ x L L', R x L L' → WritesIn (K x) L L') (h : Trail R xs L L') :
    WritesIn (fun k => ∃ x ∈ xs, K x k) L L' := by
  induction h with
  | nil L => exact .refl _ L
  | cons hx _ ih =>
    refine ((hR _ _ _ hx).trans ih).mono fun k hk => ?_
    rcases hk with hk | ⟨y, hy, hk⟩
    · exact ⟨_, List.mem_cons_self .., hk⟩
    · exact ⟨y, List.mem_cons_of_mem _ hy, hk⟩

theorem unchanged {ι β : Type} (key : α → ι) (V : α → (Bytes → Option Bytes) → β)
    (hkeep : ∀ x y L L', R y L L' → key y ≠ key x → V x L' = V x L) {x : α} (hx : key x ∉ xs.map key)
    (h : Trail R xs L L') : V x L' = V x L := by
  induction h with
  | nil L => rfl
  | cons hy _ ih =>
    rw [List.map_cons, List.mem_cons, not_or] at hx
    exact (ih hx.2).trans (hkeep _ _ _ _ hy (Ne.symm hx.1))

theorem own_step {ι β : Type} (key : α → ι) (V : α → (Bytes → Option Bytes) → β)
    (hkeep : ∀ x y L L', R y L L' → key y ≠ key x → V x L' = V x L) (hnd : (xs.map key).Nodup)
    (h : Trail R xs L L') : ∀ x ∈ xs, ∃ L₁ L₂, R x L₁ L₂ ∧ V x L₁ = V x L ∧ V x L' = V x L₂ := by
  induction h with
  | nil L => simp
  | @cons y ys L L₁ L' hy _ ih =>
    rw [List.map_cons, List.nodup_cons] at hnd
    intro x hx
    rcases List.mem_cons.mp hx with rfl | hx
    · -- the entry's own step comes first; no later step has its key
      refine ⟨L, L₁, hy, rfl, ?_⟩
      exact unchanged key V hkeep hnd.1 ‹Trail R ys L₁ L'›
    · -- an earlier step, of another key, left what the entry's key holds
      have hne : key y ≠ key x := fun he => hnd.1 (he ▸ List.mem_map_of_mem hx)
      obtain ⟨L₂, L₃, hx', h₂, h₃⟩ := ih hnd.2 x hx
      exact ⟨L₂, L₃, hx', h₂.trans (hkeep x y L L₁ hy hne), h₃⟩

end Trail

/-! ## What each channel operation writes -/

namespace Engine

variable {tx tx' : Tx}

theorem createMintChannel_stages {path : String} {capacity : Nat} {r : MintChannel × List Event}
    (h : Txn.Returns (createMintChannel path capacity) tx r tx') :
    tx.Stages (fun k => k = recordKey .mint (ChannelId.derive .mint (Text.trim path)) ∨ k = indexKey .mint) tx' := by
  obtain ⟨-, p, -, hpath, -, h1, -⟩ := createMintChannel_returns h
  obtain ⟨rfl, -⟩ := checkPath_eq_ok.mp hpath
  exact putMintChannel_stages h1

theorem createBurnChannel_stages {path : String} {r : BurnChannel × List Event}
    (h : Txn.Returns (createBurnChannel path) tx r tx') :
    tx.Stages (fun k => k = recordKey .burn (ChannelId.derive .burn (Text.trim path)) ∨ k = indexKey .burn) tx' := by
  obtain ⟨-, p, -, hpath, -, h1, -⟩ := createBurnChannel_returns h
  obtain ⟨rfl, -⟩ := checkPath_eq_ok.mp hpath
  exact putBurnChannel_stages h1

/-- Configuring a sound mint channel writes its record and the index only, and
leaves it carrying the settings as stored. -/
theorem setMintChannel_configures {now : Int} {id : ChannelId} {s : MintSettings} {r : MintChannel × List Event}
    (hsound : ∀ c, mintChannelIn tx.lookup id = some c → c.id = id ∧ c.Storable ∧ c.Valid)
    (ho : (Op.setMintChannel id s).Typed) (h : Txn.Returns (setMintChannel now id s) tx r tx') :
    tx.Stages (fun k => k = recordKey .mint id ∨ k = indexKey .mint) tx' ∧
      ∃ ch, mintChannelIn tx'.lookup id = some ch ∧ ch.settings = s.trimmed := by
  obtain ⟨-, c, c', -, -, hid, -, hst, -, -, -, hput, rfl⟩ := setMintChannel_writes_of hsound ho h
  subst hid
  have hstages := putMintChannel_stages hput
  have hread := mintChannelIn_putMintChannel hst hput c.id
  rw [if_pos rfl] at hread
  exact ⟨hstages, _, hread, rfl⟩

theorem setBurnChannel_configures {now : Int} {id : ChannelId} {s : BurnSettings} {r : BurnChannel × List Event}
    (hsound : ∀ c, burnChannelIn tx.lookup id = some c → c.id = id ∧ c.Storable ∧ c.Valid)
    (ho : (Op.setBurnChannel id s).Typed) (h : Txn.Returns (setBurnChannel now id s) tx r tx') :
    tx.Stages (fun k => k = recordKey .burn id ∨ k = indexKey .burn) tx' ∧
      ∃ ch, burnChannelIn tx'.lookup id = some ch ∧ ch.settings = s.trimmed := by
  obtain ⟨-, c, c', -, -, hid, -, hst, -, -, -, hput, rfl⟩ := setBurnChannel_writes_of hsound ho h
  subst hid
  have hstages := putBurnChannel_stages hput
  have hread := burnChannelIn_putBurnChannel hst hput c.id
  rw [if_pos rfl] at hread
  exact ⟨hstages, _, hread, rfl⟩

end Engine

/-! ## A feed's opening round -/

namespace Feed

open Store.Rlp

/-- The latest round stored for the feed `id`. -/
def latestIn (L : Bytes → Option Bytes) (id : String) : Option Round :=
  (recordAt shape storedOfValue L (key id)).bind fun s => s.toFeed.latest

/-- The magnitude an answer is stored with. -/
def magnitudeOf (answer : Int) : Nat := if answer < 0 then (-answer).toNat else answer.toNat

@[simp] theorem key_inj {i j : String} : key i = key j ↔ i = j := by
  simp [key, Bytes.ofString_injective.eq_iff]

@[simp] theorem key_ne_accountKey {i j : String} : key j ≠ Bank.accountKey i :=
  (Bank.accountKey_ne_feedKey i j).symm

theorem latestIn_congr {L L' : Bytes → Option Bytes} {id : String} (h : L' (key id) = L (key id)) :
    latestIn L' id = latestIn L id := by
  unfold latestIn recordAt
  rw [h]

theorem storedOfValue_toValue (s : Stored) : storedOfValue s.toValue = s := by
  cases s
  simp [storedOfValue, Stored.toValue]

theorem fits_stored {s : Stored} (hid : Text.Short s.id) (hdesc : Text.Short s.description)
    (hdec : s.decimals < 256) (hr : s.roundId < 2 ^ 64) (hm : s.magnitude < 2 ^ 64) (hu : s.updatedAt < 2 ^ 64) :
    Rlp.Fits shape s.toValue := by
  refine fits_record rfl ?_ ?_
  · simp only [List.zip_cons_cons, List.zip_nil_right, List.forall_mem_cons,
      List.not_mem_nil, IsEmpty.forall_iff, implies_true, and_true]
    exact ⟨fits_text _ (length_ofString_lt hid), fits_text _ (length_ofString_lt hdesc),
      fits_uint (by norm_num) (by norm_num; omega), fits_uint64 hr, fits_uint64 hm, .bool _, fits_uint64 hu⟩
  · have h1 := length_encodeBytes_le (b := Bytes.ofString s.id) (length_ofString_lt hid)
    have h2 := length_encodeBytes_le (b := Bytes.ofString s.description) (length_ofString_lt hdesc)
    have h3 := length_encode_num_le (n := s.decimals) (by omega)
    have h4 := length_encode_num_le hr
    have h5 := length_encode_num_le hm
    have h6 := length_encode_num_le hu
    have hid' : (Bytes.ofString s.id).length < 2 ^ 32 := hid
    have hdesc' : (Bytes.ofString s.description).length < 2 ^ 32 := hdesc
    have h7 := length_encode_flag s.negative
    simp only [encodeAll, List.length_append, List.length_nil, encode] at h3 h4 h5 h6 h7 ⊢
    omega

theorem answer_roundtrip {a : Int} (h0 : -2 ^ 63 ≤ a) (h1 : a < 2 ^ 63) :
    (if decide (a < 0) then wrap (-(signed (magnitudeOf a))) else signed (magnitudeOf a)) = a := by
  have h63 : Nat.pow 2 63 = 2 ^ 63 := rfl
  have h64 : Int.pow 2 64 = 2 ^ 64 := rfl
  unfold magnitudeOf wrap signed
  simp only [h63, h64]
  by_cases ha : a < 0
  · simp only [ha, decide_true, if_true]
    split <;> split <;> omega
  · simp only [ha, decide_false, Bool.false_eq_true, if_false]
    split <;> omega

variable {tx tx' : Tx}

theorem load_record {id : String} {s : Stored} (h : Txn.Returns (load id) tx s tx') :
    tx' = tx ∧ recordAt shape storedOfValue tx.lookup (key (Text.trim id)) = some s := by
  unfold load at h
  obtain ⟨-, h1⟩ := Txn.Returns.guard h
  obtain ⟨r, t1, hr, h2⟩ := Txn.Returns.bind h1
  obtain ⟨rfl, hrec⟩ := (returns_io.mp hr).read_record storedOfValue
  split at h2
  · obtain ⟨rfl, rfl⟩ := Txn.Returns.pure h2
    exact ⟨rfl, hrec.symm⟩
  · cases h2

theorem create_stores {id description : String} {decimals : Nat} {f : PriceFeed}
    (h : Txn.Returns (create id description decimals) tx f tx') :
    ¬ decimals > Amount.maxDecimals ∧ tx' = tx.restaged (key (Text.trim id))
      (some (Rlp.encode ({ id := Text.trim id, description := Text.trim description, decimals := decimals } :
        Stored).toValue)) := by
  unfold create at h
  obtain ⟨-, h1⟩ := Txn.Returns.guard h
  obtain ⟨hdec, h2⟩ := Txn.Returns.guard h1
  obtain ⟨b, t1, hb, h3⟩ := Txn.Returns.bind h2
  obtain ⟨-, rfl, -⟩ := (returns_io.mp hb).has
  obtain ⟨-, h4⟩ := Txn.Returns.guard h3
  obtain ⟨t2, h5, h6⟩ := Txn.Returns.seq h4
  obtain ⟨-, rfl⟩ := Txn.Returns.pure h6
  exact ⟨hdec, (returns_io.mp h5).write.2.2⟩

/-- An accepted round rewrites the feed's record with the next round id, the
answer and the time, which is not before the epoch. -/
theorem submit_stores {id : String} {answer time : Int} {r : Round} {s : Stored}
    (hs : recordAt shape storedOfValue tx.lookup (key (Text.trim id)) = some s)
    (h : Txn.Returns (submit id answer time) tx r tx') :
    0 ≤ time ∧ tx' = tx.restaged (key s.id) (some (Rlp.encode (⟨s.id, s.description, s.decimals, s.roundId + 1,
      magnitudeOf answer, decide (answer < 0), time.toNat⟩ : Stored).toValue)) := by
  unfold submit at h
  obtain ⟨s', t1, hl, h1⟩ := Txn.Returns.bind h
  obtain ⟨rfl, hs'⟩ := load_record hl
  rw [hs, Option.some_inj] at hs'
  subst hs'
  obtain ⟨htime, h2⟩ := Txn.Returns.guard h1
  obtain ⟨-, h3⟩ := Txn.Returns.guard h2
  obtain ⟨u, t2, h4, h5⟩ := Txn.Returns.bind h3
  have hw := (returns_io.mp h4).write.2.2
  refine ⟨by omega, ?_⟩
  split at h5 <;> exact (Txn.Returns.pure h5).2 ▸ hw

end Feed

namespace Engine

open Txn

variable {tx tx₁ u u' : Tx}

theorem feed_opened {id description : String} {decimals : Nat} {a time : Int} {r : PriceFeed × List Event}
    {r' : Round × List Event} (hid : Text.Short id) (hdesc : Text.Short description) (ha₀ : -2 ^ 63 ≤ a)
    (ha₁ : a < 2 ^ 63) (ht : time < 2 ^ 63) (hc : Returns (createFeed id description decimals) tx r tx₁)
    (hu : u.lookup = tx₁.lookup) (hsub : Returns (submitRound time id a) u r' u') :
    (∃ b, u' = u.restaged (Feed.key (Text.trim id)) (some b)) ∧
      ∃ round, Feed.latestIn u'.lookup (Text.trim id) = some round ∧ round.answer = a := by
  unfold createFeed at hc
  obtain ⟨f, t₁, hl, h₁⟩ := Returns.bind hc
  obtain ⟨-, rfl⟩ := Returns.pure h₁
  obtain ⟨hdec, rfl⟩ := Feed.create_stores (returns_mapFault.mp hl)
  have hdec' : decimals < 256 := by unfold Amount.maxDecimals at hdec; omega
  -- the round is read from the feed just created, and rewritten in its place
  have hfits₀ := Feed.fits_stored (s := { id := Text.trim id, description := Text.trim description, decimals })
    hid.trim hdesc.trim hdec' (by norm_num) (by norm_num) (by norm_num)
  have hopen : recordAt Feed.shape Feed.storedOfValue u.lookup (Feed.key (Text.trim id)) =
      some { id := Text.trim id, description := Text.trim description, decimals := decimals } := by
    rw [hu, recordAt_restaged_encode hfits₀, Feed.storedOfValue_toValue]
  unfold submitRound at hsub
  obtain ⟨x, t₂, hl', h₂⟩ := Returns.bind hsub
  obtain ⟨-, rfl⟩ := Returns.pure h₂
  obtain ⟨ht₀, rfl⟩ := Feed.submit_stores hopen (returns_mapFault.mp hl')
  have hmag : Feed.magnitudeOf a < 2 ^ 64 := by
    unfold Feed.magnitudeOf
    split <;> omega
  have hfits₁ := Feed.fits_stored (s := ⟨Text.trim id, Text.trim description, decimals, 0 + 1, Feed.magnitudeOf a,
    decide (a < 0), time.toNat⟩) hid.trim hdesc.trim hdec' (by norm_num) hmag (show time.toNat < 2 ^ 64 by omega)
  refine ⟨⟨_, rfl⟩, ?_⟩
  rw [Feed.latestIn, recordAt_restaged_encode hfits₁, Feed.storedOfValue_toValue]
  exact ⟨_, rfl, Feed.answer_roundtrip ha₀ ha₁⟩

end Engine

/-! ## The entries' keys and what their steps do -/

/-- A feed entry with short texts and a signed 64-bit opening answer. -/
structure FeedEntry.Typed (f : FeedEntry) : Prop where
  id : Text.Short f.id
  description : Text.Short f.description
  answer : ∀ a, f.answer = some a → -2 ^ 63 ≤ a ∧ a < 2 ^ 63

/-- A feed entry's step writes the feed's record only, and a missing feed
declared with an answer then holds it. -/
structure FeedEntry.Stepped (f : FeedEntry) (L L' : Bytes → Option Bytes) : Prop where
  writes : WritesIn (fun k => k = Feed.key (Text.trim f.id)) L L'
  opened : ¬ Present L (Feed.key (Text.trim f.id)) → ∀ a, f.answer = some a →
    ∃ r, Feed.latestIn L' (Text.trim f.id) = some r ∧ r.answer = a

/-- The identifier of the channel a mint channel entry declares. -/
def MintChannelEntry.channelId (c : MintChannelEntry) : ChannelId := ChannelId.derive .mint (Text.trim c.path)

/-- The identifier of the channel a burn channel entry declares. -/
def BurnChannelEntry.channelId (c : BurnChannelEntry) : ChannelId := ChannelId.derive .burn (Text.trim c.path)

/-- A mint channel entry's step writes the channel's record and the index only,
leaves the channel stored, and configures a missing one. -/
structure MintChannelEntry.Stepped (c : MintChannelEntry) (L L' : Bytes → Option Bytes) : Prop where
  writes : WritesIn (fun k => k = recordKey .mint c.channelId ∨ k = indexKey .mint) L L'
  stored : (mintChannelIn L' c.channelId).isSome
  configured : mintChannelIn L c.channelId = none →
    ∃ s ch, c.settings = .ok s ∧ mintChannelIn L' c.channelId = some ch ∧ ch.settings = s.trimmed

structure BurnChannelEntry.Stepped (c : BurnChannelEntry) (L L' : Bytes → Option Bytes) : Prop where
  writes : WritesIn (fun k => k = recordKey .burn c.channelId ∨ k = indexKey .burn) L L'
  stored : (burnChannelIn L' c.channelId).isSome
  configured : burnChannelIn L c.channelId = none →
    ∃ ch, burnChannelIn L' c.channelId = some ch ∧ ch.settings = c.settings.trimmed

namespace Api

/-! ## A run over entries, step by step -/

/-- Each entry satisfying `Q` at the clock is one step of `R`, at the same
clock, over a database that answers every call. -/
def Steps {α : Type} (run : List α → Tally → Chain Tally) (Q : Int → α → Prop)
    (R : α → (Bytes → Option Bytes) → (Bytes → Option Bytes) → Prop) : Prop :=
  ∀ (x : α) (rest : List α) (t t' : Tally) (s : Session) (hs : List Happening) (st' : Session × List Happening)
    (S : Store), Q s.now x → s.db = { store := S } → run (x :: rest) t (s, hs) = .ok t' st' →
    ∃ t₁ s₁ hs₁ S₁, run rest t₁ (s₁, hs₁) = .ok t' st' ∧ s₁.db = { store := S₁ } ∧ s₁.now = s.now ∧
      R x S.get? S₁.get?

theorem Steps.trail {α : Type} {run : List α → Tally → Chain Tally} {Q : Int → α → Prop}
    {R : α → (Bytes → Option Bytes) → (Bytes → Option Bytes) → Prop} (hstep : Steps run Q R)
    (hnil : ∀ t, run [] t = pure t) {xs : List α} {t t' : Tally} {s s' : Session} {hs hs' : List Happening}
    {S : Store} (hQ : ∀ x ∈ xs, Q s.now x) (hdb : s.db = { store := S }) (h : run xs t (s, hs) = .ok t' (s', hs')) :
    ∃ S', s'.db = { store := S' } ∧ s'.now = s.now ∧ Trail R xs S.get? S'.get? := by
  induction xs generalizing t s hs S with
  | nil =>
    rw [hnil] at h
    cases h
    exact ⟨S, hdb, rfl, .nil _⟩
  | cons x rest ih =>
    obtain ⟨t₁, s₁, hs₁, S₁, h₁, hdb₁, hnow₁, hx⟩ :=
      hstep x rest t t' s hs _ S (hQ x (List.mem_cons_self ..)) hdb h
    obtain ⟨S', hdb', hnow', htrail⟩ := ih (fun y hy => hnow₁ ▸ hQ y (List.mem_cons_of_mem _ hy)) hdb₁ h₁
    exact ⟨S', hdb', hnow'.trans hnow₁, .cons hx htrail⟩

section
variable {operator custody : Address}

theorem applyAssets_steps :
    Steps (applyAssets operator custody) (fun _ _ => True) (fun _ => WritesIn Bank.IsKey) := by
  intro a rest t t' s hs st' S _ hdb h
  obtain ⟨x, -, -, ⟨_, tx₁, S₁, hs₁, hm, hS₁, h'⟩ | ⟨f, -, -, hs₁, h'⟩⟩ := applyAssets_cons hdb h
  · -- created
    obtain ⟨signer, -, h₁⟩ := Engine.createAsset_returns hm
    have hw := WritesIn.of_stages (Bank.createAsset_stages h₁)
    rw [hS₁, Tx.lookup_start] at hw
    exact ⟨_, _, hs₁, S₁, h', rfl, rfl, hw⟩
  · exact ⟨_, s, hs₁, S, h', hdb, rfl, .refl _ _⟩

theorem applyAccounts_steps :
    Steps (applyAccounts custody) (fun _ _ => True) (fun _ => WritesIn Bank.IsKey) := by
  intro a rest t t' s hs st' S _ hdb h
  obtain ⟨x, -, -, ⟨_, tx₁, S₁, hs₁, hm, hS₁, h'⟩ | ⟨f, -, -, hs₁, h'⟩⟩ := applyAccounts_cons hdb h
  · -- opened
    have hw := WritesIn.of_stages (Bank.openAccount_stages (Engine.openAccount_returns hm))
    rw [hS₁, Tx.lookup_start] at hw
    exact ⟨_, _, hs₁, S₁, h', rfl, rfl, hw⟩
  · exact ⟨_, _, hs₁, S, h', hdb, rfl, .refl _ _⟩

theorem applyFeeds_steps :
    Steps (applyFeeds operator) (fun now f => f.Typed ∧ now < 2 ^ 63) FeedEntry.Stepped := by
  intro f rest t t' s hs st' S ⟨hf, hnow⟩ hdb h
  obtain ⟨-, ⟨_, tx₁, S₁, hm, hS₁, hnext⟩ | ⟨e, hm, hc, hs₁, h'⟩⟩ := applyFeeds_cons hdb h
  · -- created: the creation writes the feed's record, and so does its opening round
    obtain ⟨b, hb⟩ := createFeed_returns hm
    have hw₁ : WritesIn (fun k => k = Feed.key (Text.trim f.id)) S.get? S₁.get? := by
      intro k hk
      rw [← hS₁, hb, Tx.lookup_restaged, if_neg hk, Tx.lookup_start]
    rcases hnext with ⟨hnone, hs₁, h'⟩ | ⟨a, _, tx₂, S₂, hs₂, ha, hm', hS₂, h'⟩
    · refine ⟨_, _, hs₁, S₁, h', rfl, rfl, hw₁, fun _ a ha => ?_⟩
      rw [hnone] at ha
      cases ha
    · obtain ⟨ha₀, ha₁⟩ := hf.answer a ha
      have hu : ({ db := { store := S₁ } } : Tx).lookup = tx₁.lookup := by rw [Tx.lookup_start, hS₁]
      obtain ⟨⟨b', hb'⟩, round, hround, hanswer⟩ := feed_opened hf.id hf.description ha₀ ha₁ hnow hm hu hm'
      refine ⟨_, _, hs₂, S₂, h', rfl, rfl, ⟨fun k hk => ?_, fun _ a' ha' => ?_⟩⟩
      · rw [← hS₂, hb', Tx.lookup_restaged, if_neg hk, Tx.lookup_start]
        exact hw₁ k hk
      · rw [ha, Option.some_inj] at ha'
        subst ha'
        rw [← hS₂]
        exact ⟨round, hround, hanswer⟩
  · -- refused as existing: nothing written, and the feed was there
    obtain ⟨-, -, hstored⟩ := (createFeed_exists_iff Tx.raw_start rfl).mp ⟨e, hm, hc⟩
    rw [Tx.lookup_start] at hstored
    exact ⟨_, s, hs₁, S, h', hdb, rfl, ⟨.refl _ _, fun hmissing => (hmissing hstored).elim⟩⟩

theorem applyMintChannels_steps :
    Steps (applyMintChannels operator) (fun _ c => c.Typed) MintChannelEntry.Stepped := by
  intro c rest t t' s hs st' S hc hdb h
  rcases applyMintChannels_cons hdb h with ⟨hfound, h'⟩ | ⟨settings, _, _, tx₁, tx₂, S₁, S₂, hs₂, hsettings, hm,
    hS₁, hm', hS₂, h'⟩
  · -- found: nothing written
    refine ⟨_, _, _, S, h', hdb, rfl, .refl _ _, hfound, fun hnone => ?_⟩
    unfold MintChannelEntry.channelId at hnone
    rw [hnone] at hfound
    cases hfound
  · -- created under the entry's identifier, then configured there
    obtain ⟨-, hsound⟩ := createMintChannel_kept hc.path.trim hc.capacity hm
    rw [hS₁, Text.trim_trim] at hsound
    have hw₁ := WritesIn.of_stages (createMintChannel_stages hm)
    rw [hS₁, Tx.lookup_start, Text.trim_trim] at hw₁
    obtain ⟨hst, ch, hch, hset⟩ :=
      setMintChannel_configures (by rwa [Tx.lookup_start]) (hc.settings hsettings _) hm'
    have hw₂ := WritesIn.of_stages hst
    rw [hS₂, Tx.lookup_start] at hw₂
    rw [hS₂] at hch
    refine ⟨_, _, hs₂, S₂, h', rfl, rfl, ⟨(hw₁.trans hw₂).mono fun k hk => hk.elim id id, ?_, fun _ =>
      ⟨settings, ch, hsettings, hch, hset⟩⟩⟩
    simp [MintChannelEntry.channelId, hch]

theorem applyBurnChannels_steps :
    Steps (applyBurnChannels operator) (fun _ c => c.Typed) BurnChannelEntry.Stepped := by
  intro c rest t t' s hs st' S hc hdb h
  rcases applyBurnChannels_cons hdb h with ⟨hfound, h'⟩ | ⟨_, _, tx₁, tx₂, S₁, S₂, hs₂, hm, hS₁, hm', hS₂, h'⟩
  · -- found: nothing written
    refine ⟨_, _, _, S, h', hdb, rfl, .refl _ _, hfound, fun hnone => ?_⟩
    unfold BurnChannelEntry.channelId at hnone
    rw [hnone] at hfound
    cases hfound
  · -- created under the entry's identifier, then configured there
    obtain ⟨-, hsound⟩ := createBurnChannel_kept hc.path.trim hm
    rw [hS₁, Text.trim_trim] at hsound
    have hw₁ := WritesIn.of_stages (createBurnChannel_stages hm)
    rw [hS₁, Tx.lookup_start, Text.trim_trim] at hw₁
    obtain ⟨hst, ch, hch, hset⟩ := setBurnChannel_configures (by rwa [Tx.lookup_start]) (hc.settings _) hm'
    have hw₂ := WritesIn.of_stages hst
    rw [hS₂, Tx.lookup_start] at hw₂
    rw [hS₂] at hch
    refine ⟨_, _, hs₂, S₂, h', rfl, rfl, ⟨(hw₁.trans hw₂).mono fun k hk => hk.elim id id, ?_, fun _ =>
      ⟨ch, hch, hset⟩⟩⟩
    simp [BurnChannelEntry.channelId, hch]

end

end Api

/-! ## The phases of an application -/

/-- The stores an application passes through: the settings, the assets, the
feeds step by step, the accounts, then the channels step by step. -/
inductive Manifest.Phases (m : Manifest) : (Bytes → Option Bytes) → (Bytes → Option Bytes) → Prop
  | intro {L L₀ L₁ L₂ L₃ L₄ L₅ : Bytes → Option Bytes} :
    WritesIn (fun k => k = appConfigKey) L L₀ → WritesIn Bank.IsKey L₀ L₁ →
    Trail FeedEntry.Stepped m.feeds L₁ L₂ → WritesIn Bank.IsKey L₂ L₃ →
    Trail MintChannelEntry.Stepped m.mintChannels L₃ L₄ → Trail BurnChannelEntry.Stepped m.burnChannels L₄ L₅ →
    m.Phases L L₅

/-- The entries of each kind name distinct records. -/
structure Manifest.Distinct (m : Manifest) : Prop where
  feeds : (m.feeds.map fun f => Text.trim f.id).Nodup
  mints : (m.mintChannels.map MintChannelEntry.channelId).Nodup
  burns : (m.burnChannels.map BurnChannelEntry.channelId).Nodup

namespace Manifest.Phases

variable {m : Manifest} {L L' : Bytes → Option Bytes}

/-- Every declared mint channel is stored after the phases, and a missing one
is configured with its entry's settings. -/
theorem mints (h : m.Phases L L') (hnd : (m.mintChannels.map MintChannelEntry.channelId).Nodup) :
    ∀ c ∈ m.mintChannels, (mintChannelIn L' c.channelId).isSome ∧
      (mintChannelIn L c.channelId = none →
        ∃ st ch, c.settings = .ok st ∧ mintChannelIn L' c.channelId = some ch ∧ ch.settings = st.trimmed) := by
  obtain ⟨hcfg, hassets, hfeeds, haccounts, hmints, hburns⟩ := h
  intro c hc
  -- the phases before the mint channels and the burn channels after them write no mint channel's record
  have hpre := (((hcfg.trans hassets).trans (hfeeds.writes fun _ _ _ hx => hx.writes)).trans
    haccounts).mintChannelIn (i := c.channelId) (by simp [Bank.IsKey])
  have hpost := (hburns.writes fun _ _ _ hx => hx.writes).mintChannelIn (i := c.channelId) (by simp)
  obtain ⟨L₁, L₂, hstep, h₁, h₂⟩ := hmints.own_step MintChannelEntry.channelId (fun c L => mintChannelIn L c.channelId)
    (fun x y _ _ hy hne => hy.writes.mintChannelIn (by simpa using Ne.symm hne)) hnd c hc
  refine ⟨by rw [hpost, h₂]; exact hstep.stored, fun hnone => ?_⟩
  obtain ⟨st, ch, hst, hch, hset⟩ := hstep.configured (by rw [h₁, hpre, hnone])
  exact ⟨st, ch, hst, by rw [hpost, h₂, hch], hset⟩

theorem burns (h : m.Phases L L') (hnd : (m.burnChannels.map BurnChannelEntry.channelId).Nodup) :
    ∀ c ∈ m.burnChannels, (burnChannelIn L' c.channelId).isSome ∧
      (burnChannelIn L c.channelId = none →
        ∃ ch, burnChannelIn L' c.channelId = some ch ∧ ch.settings = c.settings.trimmed) := by
  obtain ⟨hcfg, hassets, hfeeds, haccounts, hmints, hburns⟩ := h
  intro c hc
  -- every phase before the burn channels writes no burn channel's record
  have hpre := ((((hcfg.trans hassets).trans (hfeeds.writes fun _ _ _ hx => hx.writes)).trans haccounts).trans
    (hmints.writes fun _ _ _ hx => hx.writes)).burnChannelIn (i := c.channelId) (by simp [Bank.IsKey])
  obtain ⟨L₁, L₂, hstep, h₁, h₂⟩ := hburns.own_step BurnChannelEntry.channelId (fun c L => burnChannelIn L c.channelId)
    (fun x y _ _ hy hne => hy.writes.burnChannelIn (by simpa using Ne.symm hne)) hnd c hc
  refine ⟨by rw [h₂]; exact hstep.stored, fun hnone => ?_⟩
  obtain ⟨ch, hch, hset⟩ := hstep.configured (by rw [h₁, hpre, hnone])
  exact ⟨ch, by rw [h₂, hch], hset⟩

theorem feeds (h : m.Phases L L') (hnd : (m.feeds.map fun f => Text.trim f.id).Nodup) :
    ∀ f ∈ m.feeds, ¬ Present L (Feed.key (Text.trim f.id)) → ∀ a, f.answer = some a →
      ∃ r, Feed.latestIn L' (Text.trim f.id) = some r ∧ r.answer = a := by
  obtain ⟨hcfg, hassets, hfeeds, haccounts, hmints, hburns⟩ := h
  intro f hf hmissing a ha
  -- the phases around the feeds write no feed's record
  have hpre := (hcfg.trans hassets) (Feed.key (Text.trim f.id)) (by simp [Bank.IsKey])
  have hpost := ((haccounts.trans (hmints.writes fun _ _ _ hx => hx.writes)).trans
    (hburns.writes fun _ _ _ hx => hx.writes)) (Feed.key (Text.trim f.id)) (by simp [Bank.IsKey])
  obtain ⟨L₁, L₂, hstep, h₁, h₂⟩ := hfeeds.own_step (fun f : FeedEntry => Text.trim f.id)
    (fun (f : FeedEntry) (L : Bytes → Option Bytes) => L (Feed.key (Text.trim f.id)))
    (fun x y _ _ hy hne => hy.writes _ (by simpa using Ne.symm hne)) hnd f hf
  have hstart : ¬ Present L₁ (Feed.key (Text.trim f.id)) := by
    unfold Present at hmissing ⊢
    rw [h₁, hpre]
    exact hmissing
  obtain ⟨r, hr, hanswer⟩ := hstep.opened hstart a ha
  exact ⟨r, by rw [Feed.latestIn_congr (hpost.trans h₂), hr], hanswer⟩

end Manifest.Phases

namespace Api

section
variable {S : Store} {s s' : Session} {hs hs' : List Happening} {m : Manifest} {operator custody : Address}

theorem applyEntries_phases {β : Type} (hm : m.Typed) (hfeeds : ∀ f ∈ m.feeds, f.Typed) (hnow : s.now < 2 ^ 63)
    {k : Tally → Chain β} {t₀ : Tally} {b : β} {L : Bytes → Option Bytes} (hL : WritesIn (fun k => k = appConfigKey) L S.get?)
    (hdb : s.db = { store := S })
    (h : (applyAssets operator custody m.assets t₀ >>= fun t => applyFeeds operator m.feeds t >>= fun t =>
        applyAccounts custody m.accounts t >>= fun t => applyMintChannels operator m.mintChannels t >>= fun t =>
        applyBurnChannels operator m.burnChannels t >>= k) (s, hs) = .ok b (s', hs')) :
    ∃ t₁ s₁ hs₁ S₁, k t₁ (s₁, hs₁) = .ok b (s', hs') ∧ s₁.db = { store := S₁ } ∧ m.Phases L S₁.get? := by
  obtain ⟨t₁, ⟨s₁, hs₁⟩, h₁, k₁⟩ := Chain.bind_ok h
  obtain ⟨S₁, hdb₁, hnow₁, hassets⟩ :=
    applyAssets_steps.trail (fun _ => rfl) (fun _ _ => trivial) hdb h₁
  obtain ⟨t₂, ⟨s₂, hs₂⟩, h₂, k₂⟩ := Chain.bind_ok k₁
  obtain ⟨S₂, hdb₂, hnow₂, hfeeds'⟩ :=
    applyFeeds_steps.trail (fun _ => rfl) (fun f hf => ⟨hfeeds f hf, hnow₁ ▸ hnow⟩) hdb₁ h₂
  obtain ⟨t₃, ⟨s₃, hs₃⟩, h₃, k₃⟩ := Chain.bind_ok k₂
  obtain ⟨S₃, hdb₃, -, haccounts⟩ :=
    applyAccounts_steps.trail (fun _ => rfl) (fun _ _ => trivial) hdb₂ h₃
  obtain ⟨t₄, ⟨s₄, hs₄⟩, h₄, k₄⟩ := Chain.bind_ok k₃
  obtain ⟨S₄, hdb₄, -, hmints⟩ := applyMintChannels_steps.trail (fun _ => rfl) hm.mints hdb₃ h₄
  obtain ⟨t₅, ⟨s₅, hs₅⟩, h₅, k₅⟩ := Chain.bind_ok k₄
  obtain ⟨S₅, hdb₅, -, hburns⟩ := applyBurnChannels_steps.trail (fun _ => rfl) hm.burns hdb₄ h₅
  -- the bank's phases write the bank's records, entry after entry
  have hbank : ∀ {α : Type} {xs : List α} {L₁ L₂ : Bytes → Option Bytes},
      Trail (fun _ => WritesIn Bank.IsKey) xs L₁ L₂ → WritesIn Bank.IsKey L₁ L₂ :=
    fun h => (h.writes fun _ _ _ hx => hx).mono fun _ ⟨_, _, hk⟩ => hk
  exact ⟨t₅, s₅, hs₅, S₅, k₅, hdb₅, .intro hL (hbank hassets) hfeeds' (hbank haccounts) hmints hburns⟩

theorem applyManifest_phases (hm : m.Typed) (hfeeds : ∀ f ∈ m.feeds, f.Typed) (hnow : s.now < 2 ^ 63) {t : Tally}
    (hdb : s.db = { store := S }) (h : applyManifest operator m (s, hs) = .ok t (s', hs')) :
    ∃ S', s'.db = { store := S' } ∧ m.Phases S.get? S'.get? := by
  unfold applyManifest at h
  obtain ⟨cfg, st₁, hq, h₁⟩ := Chain.bind_ok h
  obtain ⟨-, rfl⟩ := Chain.query_ok (Chain.within_ok hq)
  dsimp only at h₁
  split at h₁
  · -- a rolling period is declared and differs from the one found: the settings' record is rewritten
    obtain ⟨u, ⟨s₁, hs₁⟩, hu, h₂⟩ := Chain.bind_ok h₁
    obtain ⟨-, hc⟩ := Chain.admin_ok (Chain.within_ok hu)
    obtain ⟨es, tx', S₁, hm', hS₁, rfl⟩ := commit_op_ok (.setAppConfig m.rollingPeriodHours) s.engine s.context hc hdb
    obtain ⟨c, -, rfl⟩ := setAppConfig_rewrites hm'
    have hL : WritesIn (fun k => k = appConfigKey) S.get? S₁.get? := fun k hk => by
      rw [← hS₁, Tx.lookup_restaged, if_neg hk, Tx.lookup_start]
    obtain ⟨_, _, hp, h₃⟩ := Chain.bind_ok h₂
    cases hp
    obtain ⟨t₁, s₂, hs₂, S₂, hk, hdb₂, hphases⟩ := applyEntries_phases hm hfeeds (by exact hnow) hL rfl h₃
    obtain ⟨-, rfl⟩ := Chain.note_pure_ok hk
    exact ⟨S₂, hdb₂, hphases⟩
  · -- the settings are left as they are
    obtain ⟨_, _, hp, h₂⟩ := Chain.bind_ok h₁
    cases hp
    obtain ⟨t₁, s₂, hs₂, S₂, hk, hdb₂, hphases⟩ := applyEntries_phases hm hfeeds hnow (.refl _ _) hdb h₂
    obtain ⟨-, rfl⟩ := Chain.note_pure_ok hk
    exact ⟨S₂, hdb₂, hphases⟩

/-- A successful application leaves every declared channel stored, and a
channel or feed missing when it began configured as its entry says. -/
theorem application_configures_missing (hm : m.Typed) (hfeeds : ∀ f ∈ m.feeds, f.Typed) (hd : m.Distinct)
    (hnow : s.now < 2 ^ 63) {t : Tally} (hdb : s.db = { store := S })
    (h : applyManifest operator m (s, hs) = .ok t (s', hs')) :
    ∃ S', s'.db = { store := S' } ∧
      (∀ c ∈ m.mintChannels, (mintChannelIn S'.get? c.channelId).isSome ∧
        (mintChannelIn S.get? c.channelId = none →
          ∃ st ch, c.settings = .ok st ∧ mintChannelIn S'.get? c.channelId = some ch ∧ ch.settings = st.trimmed)) ∧
      (∀ c ∈ m.burnChannels, (burnChannelIn S'.get? c.channelId).isSome ∧
        (burnChannelIn S.get? c.channelId = none →
          ∃ ch, burnChannelIn S'.get? c.channelId = some ch ∧ ch.settings = c.settings.trimmed)) ∧
      (∀ f ∈ m.feeds, ¬ Present S.get? (Feed.key (Text.trim f.id)) → ∀ a, f.answer = some a →
        ∃ r, Feed.latestIn S'.get? (Text.trim f.id) = some r ∧ r.answer = a) := by
  obtain ⟨S', hdb', hphases⟩ := applyManifest_phases hm hfeeds hnow hdb h
  exact ⟨S', hdb', hphases.mints hd.mints, hphases.burns hd.burns, hphases.feeds hd.feeds⟩

end

/-- An application declaring a feed with an answer, a mint channel and a
burn channel, none of them stored, leaves the feed's answer and both channels
configured as declared. -/
theorem application_opens_declared_entries :
    let admin : Address := ⟨List.replicate 19 0 ++ [1], rfl⟩
    let xau : FeedEntry := { id := "XAU", description := "gold", decimals := 8, answer := some 2000 }
    let gold : MintChannelEntry :=
      { path := "gold", active := true, feeBps := 10, limits := ⟨1000000, 1000, 0⟩,
        basket := [⟨"GOLD", 8, 10000, "XAU"⟩] }
    let redeem : BurnChannelEntry :=
      { path := "redeem", active := true, outputAsset := "USDX", outputDecimals := 6, feeBps := 10 }
    let S : Store := ⟨[(appConfigKey, Rlp.encode (appConfigValue ⟨24, admin⟩))]⟩
    ∃ t s₁ hs₁,
      applyManifest admin { feeds := [xau], mintChannels := [gold], burnChannels := [redeem] }
        ({ engine := ⟨⟨[admin]⟩, "USDX", 6, 0⟩, now := 0, db := { store := S } }, []) = .ok t (s₁, hs₁) ∧
      ∃ S', s₁.db = { store := S' } ∧
        (∃ r, Feed.latestIn S'.get? (Text.trim xau.id) = some r ∧ r.answer = 2000) ∧
        (∃ st ch, gold.settings = .ok st ∧ mintChannelIn S'.get? gold.channelId = some ch ∧ ch.settings = st.trimmed) ∧
        ∃ ch, burnChannelIn S'.get? redeem.channelId = some ch ∧ ch.settings = redeem.settings.trimmed := by
  intro admin xau gold redeem S
  refine Chain.ok_of_check (by decide +kernel) fun _ _ _ h => ?_
  have hshort : ∀ t ∈ ["XAU", "gold", "GOLD", "redeem", "USDX", ""], Text.Short t := by
    simp [Text.Short, Bytes.ofString_eq, Char.utf8Size]
  have hfeed : xau.Typed := ⟨hshort _ (by simp [xau]), hshort _ (by simp [xau]), fun a ha => by cases ha; norm_num⟩
  have hgold : gold.Typed :=
    ⟨hshort _ (by simp [gold]), by decide, by simp [gold, hshort], by simp [gold], by simp [gold], by decide⟩
  have hredeem : redeem.Typed :=
    ⟨hshort _ (by simp [redeem]), hshort _ (by simp [redeem]), hshort _ (by simp [redeem]), by decide⟩
  have hd : Manifest.Distinct { feeds := [xau], mintChannels := [gold], burnChannels := [redeem] } :=
    ⟨List.nodup_singleton _, List.nodup_singleton _, List.nodup_singleton _⟩
  have hxau : ¬ Present S.get? (Feed.key (Text.trim xau.id)) := by
    rintro ⟨b, hb, -⟩
    exact Option.some_ne_none b (hb.symm.trans (by decide +kernel))
  have hgold₀ : mintChannelIn S.get? gold.channelId = none := by decide +kernel
  have hredeem₀ : burnChannelIn S.get? redeem.channelId = none := by decide +kernel
  obtain ⟨S', hdb', hmints, hburns, hfeeds⟩ := application_configures_missing
    ⟨by decide, by simpa using hgold, by simpa using hredeem⟩ (by simpa using hfeed) hd (by decide) rfl h
  exact ⟨S', hdb', hfeeds _ (List.mem_singleton_self _) hxau 2000 rfl,
    (hmints _ (List.mem_singleton_self _)).2 hgold₀, (hburns _ (List.mem_singleton_self _)).2 hredeem₀⟩

end Api

end Issuance
