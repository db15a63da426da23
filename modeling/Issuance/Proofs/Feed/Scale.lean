import Mathlib
import Issuance.Proofs.Store.RlpSpan
import Issuance.Proofs.Engine.ChannelSound
/-! # Feeds keep their scale

A feed is created with at most nineteen decimals and a round keeps the
decimals of the record it was read from, so every feed record a reader finds
on a reachable store has at most nineteen. A record is written whatever its
texts and numbers, so this rests on the codec: a record too long for its
header does not decode, and one that does reads its decimals back. -/
namespace Issuance

open Store Txn Rlp

namespace Feed

/-- Every feed record a reader finds has at most nineteen decimals. -/
def Scaled (L : Bytes → Option Bytes) : Prop :=
  ∀ id s, recordAt shape storedOfValue L (key id) = some s → s.decimals ≤ Amount.maxDecimals

theorem decimals_storedOfValue_le {i d : Bytes} {n : Nat} {ws : List Value} :
    (storedOfValue (.items ([.bytes i, .bytes d, .num n] ++ ws))).decimals ≤ n := by
  unfold storedOfValue
  split
  · rename_i heq
    simp only [List.cons_append, List.nil_append, Value.items.injEq, List.cons.injEq, Value.num.injEq] at heq
    rw [heq.2.2.1]
  · exact Nat.zero_le _

theorem length_le_encode_bytes (b : Bytes) : b.length ≤ (encode (.bytes b)).length := by
  simp only [encode]
  rcases encodeBytes_cases b with ⟨x, rfl, -, he⟩ | ⟨-, he⟩ <;> simp [he]

/-- A stored feed decodes, if at all, with the decimals it was written with:
too long a record does not decode, and a shorter one reads its texts and its
decimals back. -/
theorem decimals_of_decode {s : Stored} {v : Value} (hs : s.decimals < 256)
    (h : decode shape (encode s.toValue) = .ok v) : (storedOfValue v).decimals ≤ s.decimals := by
  set pre : List Value := [.bytes (Bytes.ofString s.id), .bytes (Bytes.ofString s.description), .num s.decimals]
  set rest : List Value := [.num s.roundId, .num s.magnitude, .flag s.negative, .num s.updatedAt]
  have hval : s.toValue = .items (pre ++ rest) := rfl
  rw [hval] at h
  have hlen : (encodeAll (pre ++ rest)).length =
      (encode (.bytes (Bytes.ofString s.id))).length + (encode (.bytes (Bytes.ofString s.description))).length +
        (encode (.num s.decimals)).length + (encodeAll rest).length := by
    simp [pre, encodeAll_cons, encodeAll]
    omega
  by_cases hP : (encodeAll (pre ++ rest)).length < 2 ^ 64
  · have h8 : ∀ {n}, n ≤ (encodeAll (pre ++ rest)).length → (Bytes.ofNat n).length ≤ 8 := fun hn =>
      Bytes.length_ofNat_le (by norm_num; omega)
    have hi := length_le_encode_bytes (Bytes.ofString s.id)
    have hd := length_le_encode_bytes (Bytes.ofString s.description)
    obtain ⟨ws, rfl⟩ := decode_record_prefix (by simp [pre]) (fun p hp => by
      simp only [pre, List.zip_cons_cons, List.zip_nil_right, List.mem_cons, List.not_mem_nil, or_false] at hp
      rcases hp with rfl | rfl | rfl
      · exact .text (h8 (by omega))
      · exact .text (h8 (by omega))
      · exact .uint (Bytes.length_ofNat_le (by simpa using hs)) (by norm_num)) (h8 le_rfl) h
    exact decimals_storedOfValue_le
  · -- the header of a record of `2 ^ 64` bytes or more takes at least ten
    have hbig := Bytes.lt_pow_length_ofNat (encodeAll (pre ++ rest)).length
    have hl9 : 9 ≤ (Bytes.ofNat (encodeAll (pre ++ rest)).length).length := by
      by_contra hc
      have : (256 : Nat) ^ (Bytes.ofNat (encodeAll (pre ++ rest)).length).length ≤ 256 ^ 8 :=
        Nat.pow_le_pow_right (by norm_num) (by omega)
      norm_num at this
      omega
    have hdec := decode_record_length (by rfl) h
    rw [encode_items, List.length_append, header, if_neg (by omega), List.length_cons] at hdec
    omega

theorem Scaled.empty : Scaled ({} : Store).get? := by
  have hnone : ∀ k, ({} : Store).get? k = none := fun k => rfl
  intro id s h
  simp [recordAt, hnone] at h

section
variable {tx tx' : Tx}

theorem recordAt_restaged_self {k : Bytes} {v : Value} :
    recordAt shape storedOfValue (tx.restaged k (some (encode v))).lookup k =
      (decode shape (encode v)).toOption.map storedOfValue := by
  have hne : (!(encode v).isEmpty) = true := by
    simpa using List.ne_nil_of_length_pos (length_encode_pos v)
  rw [recordAt, Tx.lookup_restaged, if_pos rfl, Option.filter_some, if_pos hne, Option.bind_some]

theorem Scaled.stages {P : Bytes → Prop} (hs : Scaled tx.lookup) (h : tx.Stages P tx')
    (hP : ∀ k, P k → ∀ i, k ≠ key i) : Scaled tx'.lookup :=
  fun id s hr => hs id s (by rwa [recordAt_of_stages h fun hk => hP _ hk id rfl] at hr)

theorem Scaled.restaged {k : Bytes} (hs : Scaled tx.lookup) (hk : ∀ i, k ≠ key i) (v : Option Bytes) :
    Scaled (tx.restaged k v).lookup :=
  hs.stages (.restaged rfl v) fun _ h => h ▸ hk

theorem Scaled.bank {P : Bytes → Prop} (hs : Scaled tx.lookup) (h : tx.Stages P tx') (hP : ∀ k, P k → Bank.IsKey k) :
    Scaled tx'.lookup :=
  hs.stages h fun k hk i he => Bank.not_isKey_feedKey i (he ▸ hP k hk)

theorem Scaled.putMintChannel {c : MintChannel} {u : Unit} (hs : Scaled tx.lookup)
    (h : Returns (Channel.putMintChannel c) tx u tx') : Scaled tx'.lookup :=
  hs.stages (Channel.putMintChannel_stages h) (by rintro k (rfl | rfl) i; exacts [by simp, Ne.symm (by simp)])

theorem Scaled.putBurnChannel {c : BurnChannel} {u : Unit} (hs : Scaled tx.lookup)
    (h : Returns (Channel.putBurnChannel c) tx u tx') : Scaled tx'.lookup :=
  hs.stages (Channel.putBurnChannel_stages h) (by rintro k (rfl | rfl) i; exacts [by simp, Ne.symm (by simp)])

theorem Scaled.write {i : String} {s : Stored} (hs : Scaled tx.lookup) (hd : s.decimals ≤ Amount.maxDecimals) :
    Scaled (tx.restaged (key i) (some (encode s.toValue))).lookup := by
  intro id s' h
  by_cases hk : key id = key i
  · rw [hk, recordAt_restaged_self] at h
    cases hdec : decode shape (encode s.toValue) with
    | error e => simp [hdec, Except.toOption] at h
    | ok v =>
      simp only [hdec, Except.toOption, Option.map_some, Option.some.injEq] at h
      subst h
      have := decimals_of_decode (lt_of_le_of_lt hd (by decide)) hdec
      omega
  · rw [recordAt_restaged_of_ne hk] at h
    exact hs id s' h

theorem load_found {id : String} {s : Stored} (h : Returns (load id) tx s tx') :
    recordAt shape storedOfValue tx.lookup (key (Text.trim id)) = some s := by
  unfold load at h
  obtain ⟨-, h1⟩ := Returns.guard h
  obtain ⟨r, t1, hr, h2⟩ := Returns.bind h1
  obtain ⟨rfl, hrec⟩ := (returns_io.mp hr).read_record storedOfValue
  split at h2
  · obtain ⟨rfl, -⟩ := Returns.pure h2
    exact hrec.symm
  · cases h2

theorem create_writes {id description : String} {decimals : Nat} {f : PriceFeed}
    (h : Returns (create id description decimals) tx f tx') :
    ∃ s : Stored, s.decimals ≤ Amount.maxDecimals ∧ tx' = tx.restaged (key (Text.trim id)) (some (encode s.toValue)) := by
  unfold create at h
  obtain ⟨-, h1⟩ := Returns.guard h
  obtain ⟨hd, h2⟩ := Returns.guard h1
  obtain ⟨b, t1, hb, h3⟩ := Returns.bind h2
  obtain ⟨-, rfl, -⟩ := (returns_io.mp hb).has
  obtain ⟨-, h4⟩ := Returns.guard h3
  obtain ⟨t2, h5, h6⟩ := Returns.seq h4
  obtain ⟨-, rfl⟩ := Returns.pure h6
  exact ⟨_, Nat.not_lt.mp hd, (returns_io.mp h5).write.2.2⟩

theorem submit_keepsDecimals {id : String} {answer time : Int} {r : Round} (h : Returns (submit id answer time) tx r tx') :
    ∃ s s' : Stored, recordAt shape storedOfValue tx.lookup (key (Text.trim id)) = some s ∧
      tx' = tx.restaged (key s'.id) (some (encode s'.toValue)) ∧ s'.decimals = s.decimals := by
  unfold submit at h
  obtain ⟨s, t1, hs, h1⟩ := Returns.bind h
  have hrec := load_found hs
  obtain rfl := load_returns hs
  obtain ⟨-, h2⟩ := Returns.guard h1
  obtain ⟨-, h3⟩ := Returns.guard h2
  obtain ⟨u, t2, h4, h5⟩ := Returns.bind h3
  have hw := (returns_io.mp h4).write.2.2
  have ht : tx' = t2 := by split at h5 <;> exact (Returns.pure h5).2
  exact ⟨s, _, hrec, ht.trans hw, rfl⟩

theorem latest_decimals {id : String} {r : Round} (hs : Scaled tx.lookup) (h : Returns (latest id) tx r tx') :
    r.decimals ≤ Amount.maxDecimals := by
  unfold latest at h
  obtain ⟨s, t1, hl, h1⟩ := Returns.bind h
  have hd := hs _ s (load_found hl)
  split at h1
  · rename_i r' hr
    obtain ⟨rfl, -⟩ := Returns.pure h1
    unfold Stored.toFeed at hr
    split at hr
    · cases hr
    · cases hr
      exact hd
  · cases h1

end

end Feed

namespace Engine

variable {tx tx' : Tx}

theorem createFeed_writes {id description : String} {decimals : Nat} {r : PriceFeed × List Event}
    (h : Returns (createFeed id description decimals) tx r tx') :
    ∃ s : Feed.Stored, s.decimals ≤ Amount.maxDecimals ∧
      tx' = tx.restaged (Feed.key (Text.trim id)) (some (encode s.toValue)) := by
  unfold createFeed at h
  obtain ⟨f, t1, hl, h1⟩ := Returns.bind h
  obtain ⟨-, rfl⟩ := Returns.pure h1
  exact Feed.create_writes (returns_mapFault.mp hl)

theorem submitRound_writes {now answer : Int} {id : String} {r : Round × List Event}
    (h : Returns (submitRound now id answer) tx r tx') :
    ∃ s s' : Feed.Stored, recordAt Feed.shape Feed.storedOfValue tx.lookup (Feed.key (Text.trim id)) = some s ∧
      tx' = tx.restaged (Feed.key s'.id) (some (encode s'.toValue)) ∧ s'.decimals = s.decimals := by
  unfold submitRound at h
  obtain ⟨x, t1, hl, h1⟩ := Returns.bind h
  obtain ⟨-, rfl⟩ := Returns.pure h1
  exact Feed.submit_keepsDecimals (returns_mapFault.mp hl)

end Engine

namespace Feed

variable {tx tx' : Tx}

/-- Every operation keeps the store scaled: only a creation and a round
write feed records, with at most nineteen decimals. -/
theorem Scaled.op {e : Engine} {ctx : Context} {o : Engine.Op} {r : o.Result × List Event} (hs : Scaled tx.lookup)
    (h : Returns (o.txn e ctx) tx r tx') : Scaled tx'.lookup := by
  cases o with
  | createAppConfig signer =>
    obtain ⟨-, rfl⟩ := Engine.createAppConfig_returns h
    exact hs.restaged (fun i => Ne.symm (by simp)) _
  | setAppConfig hours =>
    obtain ⟨c, -, rfl⟩ := Engine.setAppConfig_returns h
    exact hs.restaged (fun i => Ne.symm (by simp)) _
  | createAsset id decimals authority =>
    obtain ⟨_, -, h1⟩ := Engine.createAsset_returns h
    exact hs.bank (Bank.createAsset_stages h1) fun _ hk => hk
  | createFeed id description decimals =>
    obtain ⟨s, hd, rfl⟩ := Engine.createFeed_writes h
    exact hs.write hd
  | submitRound id answer =>
    obtain ⟨s, s', hrec, rfl, hd⟩ := Engine.submitRound_writes h
    exact hs.write (hd ▸ hs _ s hrec)
  | openAccount owner id asset =>
    exact hs.bank (Bank.openAccount_stages (Engine.openAccount_returns h)) fun _ hk => hk
  | createMintChannel path capacity =>
    obtain ⟨_, _, -, -, -, h1, -⟩ := Engine.createMintChannel_returns h
    exact hs.putMintChannel h1
  | setMintChannel id s =>
    obtain ⟨_, _, _, -, -, -, -, -, h1⟩ := Engine.setMintChannel_returns h
    exact hs.putMintChannel h1
  | createBurnChannel path =>
    obtain ⟨_, _, -, -, -, h1, -⟩ := Engine.createBurnChannel_returns h
    exact hs.putBurnChannel h1
  | setBurnChannel id s =>
    obtain ⟨_, _, -, -, -, -, h1⟩ := Engine.setBurnChannel_returns h
    exact hs.putBurnChannel h1
  | mint req =>
    obtain ⟨_, _, _, _, _, _, _, _, t1, t2, -, -, -, -, -, -, -, -, -, h1, -, h2, h3, -⟩ := Engine.mint_returns h
    exact ((hs.bank (Engine.transferLegs_stages h1) fun _ => Channel.accounts_isKey).bank (Bank.mintTo_stages h2)
      fun _ hk => hk).putMintChannel h3
  | burn req =>
    obtain ⟨_, _, _, _, _, _, _, _, _, t1, t2, t3, -, -, -, -, -, -, -, -, h1, h2, -, h3, h4, -⟩ :=
      Engine.burn_returns h
    exact (((hs.bank (Bank.transfer_stages h1) fun _ => Channel.accounts_isKey).bank (Bank.burn_stages h2)
      fun _ hk => hk).bank (Bank.transfer_stages h3) fun _ => Channel.accounts_isKey).putBurnChannel h4
  | withdrawFee source destination amount =>
    obtain ⟨_, _, h1⟩ := Engine.withdrawFee_returns h
    exact hs.bank (Bank.transfer_stages h1) fun _ => Channel.accounts_isKey
  | releaseAssetCustody asset next =>
    obtain ⟨_, h1⟩ := Engine.releaseAssetCustody_returns h
    exact hs.bank (Bank.setMintAuthority_stages h1) fun _ hk => hk

theorem Scaled.of_reachable {e : Engine} {S : Store} (h : Engine.Reachable e S) : Scaled S.get? :=
  h.views Scaled.empty (fun _ _ _ _ _ _ _ hs hm => hs.op hm)
    (fun _ _ _ _ _ hs hm => hs.bank (Engine.BankCall.stages hm) fun _ hk => hk)

end Feed

end Issuance
