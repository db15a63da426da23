import Mathlib
import Issuance.Proofs.Api.Bootstrap
/-! # Records read back as stored

A stored channel or settings record reads back as written, in the same
transaction or from a later one over the committed store, except that the
period anchor is stored unsigned and so reads back as zero when negative. -/
namespace Issuance

open Store Txn Channel

namespace Store.Tx

theorem stagedAt_restaged (tx : Tx) (k : Bytes) (v : Option Bytes) (k' : Bytes) :
    (tx.restaged k v).stagedAt k' = if k' = k then some v else tx.stagedAt k' := by
  unfold stagedAt Tx.restaged
  by_cases h : k' = k
  · subst h
    simp [find?_restage_self]
  · simp [find?_restage_of_ne h, h]

end Store.Tx

theorem Counters.reread_eq {c : Counters} (h : c.periodAnchor < 2 ^ 63) :
    c.reread = { c with periodAnchor := max c.periodAnchor 0 } := by
  have h63 : Nat.pow 2 63 = 2 ^ 63 := rfl
  simp only [Counters.reread, signedOf, storedAnchor, h63]
  congr 1
  split_ifs <;> omega

section
variable {α : Type} {tx : Tx} {shape : Rlp.Shape} {of : Rlp.Value → α} {k : Bytes} {a : α}

theorem read_map_eq (hraw : tx.raw k = .ok (tx.lookup k)) (hk : k ≠ []) (h : recordAt shape of tx.lookup k = some a) :
    (do pure ((← Txn.read shape k).map of) : Txn (Option α)) tx = .ok (some a, tx) := by
  obtain ⟨v, hv, rfl⟩ := Txn.read_of_recordAt hraw hk h
  simp [bind, StateT.bind, Except.bind, hv, pure, StateT.pure, Except.pure]

/-- A transaction that started on a database that answers every call and
only staged writes commits to such a database, which a read-only transaction
then reads record for record. -/
theorem view_read_map_eq {S : Store} {t : Tx} {db' : Database}
    (hs : Tx.Stages (fun _ => True) { db := { store := S } } t) (hc : t.commit = .ok db') (hk : k ≠ [])
    (h : recordAt shape of t.lookup k = some a) :
    view db' (do pure ((← Txn.read shape k).map of) : Txn (Option α)) = .ok (some a) := by
  obtain ⟨S', hc'⟩ := Api.Tx.commit_plain (hs.frame.1.trans rfl)
  rw [hc] at hc'
  cases hc'
  have hl : ({ db := { store := S' }, readOnly := true } : Tx).lookup = t.lookup := by
    rw [Tx.lookup_view, Engine.atomic_lookup hs hc]
  have hraw : ({ db := { store := S' }, readOnly := true } : Tx).raw k = .ok (Tx.lookup _ k) := Tx.raw_of_db rfl k
  rw [← hl] at h
  unfold view
  rw [read_map_eq hraw hk h]
  rfl

theorem recordAt_of_lookup {L : Bytes → Option Bytes} {v : Rlp.Value} (hv : Rlp.Fits shape v)
    (hl : L k = some (Rlp.encode v)) : recordAt shape of L k = some (of v) := by
  have hne : (!(Rlp.encode v).isEmpty) = true := by
    simpa using List.ne_nil_of_length_pos (Rlp.length_encode_pos v)
  rw [recordAt, hl, Option.filter_some, if_pos hne, Option.bind_some, Rlp.decode_encode hv]
  rfl

/-- Storing `put` followed by reading `get`, in the same transaction or in a
later one over the committed store, finds `a`. -/
def ReadsBack (put : Txn Unit) (k : Bytes) (get : Txn (Option α)) (a : α) : Prop :=
  ∀ tx tx', Txn.Returns put tx () tx' → get tx' = .ok (some a, tx') ∧
    ∀ (S : Store) (t : Tx) (db' : Database), Tx.Stages (fun _ => True) { db := { store := S } } tx →
      Tx.Stages (· ≠ k) tx' t → t.commit = .ok db' → view db' get = .ok (some a)

/-- A step that stages the encoding of `v` at `k` and stages nothing it does
not leave staged reads back through the reader of its shape. -/
theorem readsBack_of {put : Txn Unit} {v : Rlp.Value} (hk : k ≠ []) (hv : Rlp.Fits shape v)
    (hput : ∀ tx tx', Txn.Returns put tx () tx' →
      tx'.stagedAt k = some (some (Rlp.encode v)) ∧ Tx.Stages (fun _ => True) tx tx') :
    ReadsBack put k (do pure ((← Txn.read shape k).map of) : Txn (Option α)) (of v) := by
  intro tx tx' h
  obtain ⟨hs, hst⟩ := hput tx tx' h
  have hl : tx'.lookup k = some (Rlp.encode v) := by rw [Tx.lookup, hs]
  have hraw : tx'.raw k = .ok (tx'.lookup k) := by rw [Tx.raw, hs, hl]
  have hrec : recordAt shape of tx'.lookup k = some (of v) := recordAt_of_lookup hv hl
  refine ⟨read_map_eq hraw hk hrec, fun S t db' h₀ h₁ hc => ?_⟩
  refine view_read_map_eq (h₀.trans (hst.trans (h₁.mono fun _ _ => trivial))) hc hk ?_
  rw [recordAt_of_stages h₁ (by simp)]
  exact hrec

end

theorem putMintChannel_staged {c : MintChannel} {tx tx' : Tx} (h : Txn.Returns (putMintChannel c) tx () tx') :
    tx'.stagedAt (recordKey .mint c.id) = some (some (Rlp.encode (mintValue c))) ∧
      Tx.Stages (fun _ => True) tx tx' := by
  obtain ⟨-, h1⟩ := putMintChannel_returns h
  refine ⟨?_, (putMintChannel_stages h).mono fun _ _ => trivial⟩
  rcases h1.append.2 with rfl | ⟨b, -, rfl⟩ <;> simp [Tx.stagedAt_restaged]

theorem putBurnChannel_staged {c : BurnChannel} {tx tx' : Tx} (h : Txn.Returns (putBurnChannel c) tx () tx') :
    tx'.stagedAt (recordKey .burn c.id) = some (some (Rlp.encode (burnValue c))) ∧
      Tx.Stages (fun _ => True) tx tx' := by
  obtain ⟨-, h1⟩ := putBurnChannel_returns h
  refine ⟨?_, (putBurnChannel_stages h).mono fun _ _ => trivial⟩
  rcases h1.append.2 with rfl | ⟨b, -, rfl⟩ <;> simp [Tx.stagedAt_restaged]

theorem putAppConfig_staged {c : AppConfig} {tx tx' : Tx} (h : Txn.Returns (putAppConfig c) tx () tx') :
    tx'.stagedAt appConfigKey = some (some (Rlp.encode (appConfigValue c))) ∧ Tx.Stages (fun _ => True) tx tx' := by
  rw [putAppConfig_returns h]
  exact ⟨by simp [Tx.stagedAt_restaged], .restaged trivial _⟩

/-- Mint and burn channels read back with the anchor clamped at zero, and
the settings exactly. -/
theorem records_read_back :
    (∀ c : MintChannel, c.Storable → c.counters.periodAnchor < 2 ^ 63 →
      ReadsBack (putMintChannel c) (recordKey .mint c.id) (mintChannel c.id)
        { c with counters := { c.counters with periodAnchor := max c.counters.periodAnchor 0 } }) ∧
    (∀ c : BurnChannel, c.Storable → c.counters.periodAnchor < 2 ^ 63 →
      ReadsBack (putBurnChannel c) (recordKey .burn c.id) (burnChannel c.id)
        { c with counters := { c.counters with periodAnchor := max c.counters.periodAnchor 0 } }) ∧
    ∀ c : AppConfig, c.rollingPeriodHours < 2 ^ 32 → ReadsBack (putAppConfig c) appConfigKey appConfig c := by
  refine ⟨fun c hst ha => ?_, fun c hst ha => ?_, fun c hc => ?_⟩
  · rw [← Counters.reread_eq ha, ← mintOf_mintValue]
    exact readsBack_of (recordKey_ne_nil _ _) (fits_mintValue hst) fun _ _ => putMintChannel_staged
  · rw [← Counters.reread_eq ha, ← burnOf_burnValue]
    exact readsBack_of (recordKey_ne_nil _ _) (fits_burnValue hst) fun _ _ => putBurnChannel_staged
  · have h : ReadsBack (putAppConfig c) appConfigKey appConfig (appConfigOf (appConfigValue c)) :=
      readsBack_of appConfigKey_ne_nil (fits_appConfigValue hc) fun _ _ => putAppConfig_staged
    rwa [appConfigOf_appConfigValue] at h

/-- A mint channel whose window anchor lies before the epoch reads back with
the anchor at the epoch; settings of a 12-hour period read back as they are. -/
theorem records_read_back_clamped :
    let c : MintChannel :=
      { id := ChannelId.derive .mint "basket", path := "basket", basket := [⟨"AAA", 6, 10000, ""⟩],
        counters := { periodCap := 1000, periodAnchor := -60 } }
    let cfg : AppConfig := ⟨12, ⟨List.replicate 19 0 ++ [2], rfl⟩⟩
    c.Storable ∧ c.counters.periodAnchor < 2 ^ 63 ∧ max c.counters.periodAnchor 0 = 0 ∧
      ReadsBack (putMintChannel c) (recordKey .mint c.id) (mintChannel c.id)
        { c with counters := { c.counters with periodAnchor := max c.counters.periodAnchor 0 } } ∧
      cfg.rollingPeriodHours < 2 ^ 32 ∧ ReadsBack (putAppConfig cfg) appConfigKey appConfig cfg := by
  intro c cfg
  have hshort : ∀ t ∈ ["basket", "AAA", ""], Text.Short t := by simp [Text.Short, Bytes.ofString_eq, Char.utf8Size]
  have hleg : ∀ l ∈ c.basket, l.Storable := by
    simp only [c, List.mem_singleton, forall_eq]
    exact ⟨hshort _ (by simp), by decide, by decide, hshort _ (by simp)⟩
  have hst : c.Storable :=
    ⟨hshort _ (by simp [c]), by decide, by decide, hleg, by decide, by decide, ⟨by decide, by decide, by decide, by decide,
      by decide, by decide⟩⟩
  obtain ⟨hmint, -, hcfg⟩ := records_read_back
  exact ⟨hst, by decide, by decide, hmint c hst (by decide), by decide, hcfg cfg (by decide)⟩

end Issuance
