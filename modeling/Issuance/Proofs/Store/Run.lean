import Mathlib
import Issuance.Proofs.Store.View
/-! # Running a step inside a transaction

`Returns m tx a tx'`: `m` started in `tx` returns `a` and leaves `tx'`. Facts
about an operation are facts about its successful runs, taken apart bind by
bind; reads leave the transaction, a write stages one key. -/
namespace Issuance.Store

/-- The transaction with `k` staged to `v`. -/
def Tx.restaged (tx : Tx) (k : Bytes) (v : Option Bytes) : Tx := { tx with staged := Tx.restage k v tx.staged }

namespace Tx

@[simp] theorem restaged_db (tx : Tx) (k : Bytes) (v : Option Bytes) : (tx.restaged k v).db = tx.db := rfl

@[simp] theorem restaged_readOnly (tx : Tx) (k : Bytes) (v : Option Bytes) :
    (tx.restaged k v).readOnly = tx.readOnly := rfl

@[simp] theorem lookup_restaged (tx : Tx) (k : Bytes) (v : Option Bytes) (k' : Bytes) :
    (tx.restaged k v).lookup k' = if k' = k then v else tx.lookup k' :=
  lookup_restage tx k v k'

theorem writtenKeys_restaged {tx : Tx} (hn : tx.writtenKeys.Nodup) (k : Bytes) (v : Option Bytes) :
    (tx.restaged k v).writtenKeys.Nodup :=
  nodup_restage hn k v

/-- `tx'` is `tx` with more writes staged, each at a key that satisfies `P`. -/
def Stages (P : Bytes → Prop) : Tx → Tx → Prop :=
  Relation.ReflTransGen fun t t' => ∃ k v, P k ∧ t' = t.restaged k v

namespace Stages

variable {P Q : Bytes → Prop} {tx tx' tx'' : Tx}

theorem restaged {k : Bytes} (hk : P k) (v : Option Bytes) : Stages P tx (tx.restaged k v) :=
  .single ⟨k, v, hk, rfl⟩

theorem trans (h : Stages P tx tx') (h' : Stages P tx' tx'') : Stages P tx tx'' :=
  Relation.ReflTransGen.trans h h'

theorem mono (hPQ : ∀ k, P k → Q k) (h : Stages P tx tx') : Stages Q tx tx' := by
  induction h with
  | refl => exact .refl
  | tail _ hs ih =>
    obtain ⟨k, v, hk, rfl⟩ := hs
    exact ih.tail ⟨k, v, hPQ k hk, rfl⟩

theorem lookup (h : Stages P tx tx') {k : Bytes} (hk : ¬ P k) : tx'.lookup k = tx.lookup k := by
  induction h with
  | refl => rfl
  | tail _ hs ih =>
    obtain ⟨k', v, hk', rfl⟩ := hs
    have hne : k ≠ k' := fun he => hk (he ▸ hk')
    rw [lookup_restaged, if_neg hne, ih]

theorem frame (h : Stages P tx tx') :
    tx'.db = tx.db ∧ tx'.readOnly = tx.readOnly ∧ (tx.writtenKeys.Nodup → tx'.writtenKeys.Nodup) := by
  induction h with
  | refl => exact ⟨rfl, rfl, id⟩
  | tail _ hs ih =>
    obtain ⟨k, v, -, rfl⟩ := hs
    exact ⟨ih.1, ih.2.1, fun hn => writtenKeys_restaged (ih.2.2 hn) k v⟩

end Stages

end Tx

namespace Txn

variable {ε α β : Type} {tx tx' tx'' : Tx}

/-- `m`, started in `tx`, returns `a` and leaves `tx'`. -/
def Returns (m : TxnOf ε α) (tx : Tx) (a : α) (tx' : Tx) : Prop := m tx = .ok (a, tx')

theorem Returns.bind {m : TxnOf ε α} {f : α → TxnOf ε β} {b : β} (h : Returns (m >>= f) tx b tx'') :
    ∃ a tx', Returns m tx a tx' ∧ Returns (f a) tx' b tx'' := by
  unfold Returns at *
  simp only [Bind.bind, StateT.bind] at h
  cases hm : m tx with
  | error e => rw [hm] at h; cases h
  | ok p => rw [hm] at h; exact ⟨p.1, p.2, rfl, h⟩

theorem Returns.seq {m : TxnOf ε PUnit} {k : TxnOf ε β} {b : β} (h : Returns (m *> k) tx b tx'') :
    ∃ tx', Returns m tx () tx' ∧ Returns k tx' b tx'' := by
  obtain ⟨_, s, hm, hk⟩ := Returns.bind (m := m) (f := fun _ => k) h
  exact ⟨s, hm, hk⟩

theorem Returns.pure {a b : α} (h : Returns (Pure.pure a : TxnOf ε α) tx b tx') : b = a ∧ tx' = tx := by
  unfold Returns at h
  change Except.ok (a, tx) = _ at h
  cases h
  exact ⟨rfl, rfl⟩

theorem Returns.get {a : Tx} (h : Returns (MonadState.get : TxnOf ε Tx) tx a tx') : a = tx ∧ tx' = tx := by
  unfold Returns at h
  change Except.ok (tx, tx) = _ at h
  cases h
  exact ⟨rfl, rfl⟩

theorem not_returns_fail {f : Fault} {a : α} : ¬ Returns (fail f : Txn α) tx a tx' := nofun

theorem Returns.lift {r : Except Fault α} {a : α} (h : Returns (lift r) tx a tx') : r = .ok a ∧ tx' = tx := by
  unfold Returns Txn.lift at h
  cases r with
  | error e => cases h
  | ok b =>
    cases h
    exact ⟨rfl, rfl⟩

@[simp] theorem returns_mapFault {ε' : Type} {g : ε → ε'} {m : TxnOf ε α} {a : α} :
    Returns (mapFault g m) tx a tx' ↔ Returns m tx a tx' := by
  unfold Returns mapFault
  constructor
  · intro h
    split at h
    · rename_i r hr
      cases h
      exact hr
    · cases h
  · intro h
    simp [h]

theorem Returns.attempt {m : Txn α} {r : Except Fault α} (h : Returns (attempt m) tx r tx') :
    (∃ a, r = .ok a ∧ Returns m tx a tx') ∨ (∃ f, r = .error f ∧ tx' = tx) := by
  unfold Returns Txn.attempt at h
  split at h
  · rename_i a s hm
    cases h
    exact .inl ⟨a, rfl, hm⟩
  · rename_i f hm
    cases h
    exact .inr ⟨f, rfl, rfl⟩

theorem Returns.guard {c : Prop} [Decidable c] {e : ε} {k : PUnit → TxnOf ε β} {m : TxnOf ε β} {b : β}
    (h : Returns (if c then (fun _ => .error e : TxnOf ε PUnit) >>= k else m) tx b tx') :
    ¬ c ∧ Returns m tx b tx' := by
  split at h
  · obtain ⟨_, _, hf, _⟩ := Returns.bind h
    cases hf
  · rename_i hc
    exact ⟨hc, h⟩

/-! ## The primitives of the store -/

/-- What a read of `k` finds: absent and empty bytes are both nothing. -/
def found (tx : Tx) (k : Bytes) : Option Bytes := (tx.lookup k).filter fun v => !v.isEmpty

theorem found_eq_some {tx : Tx} {k b : Bytes} (h : tx.lookup k = some b) (hb : b ≠ []) : found tx k = some b := by
  simp [found, h, hb]

theorem found_eq_none {tx : Tx} {k : Bytes} (h : tx.lookup k = none) : found tx k = none := by
  simp [found, h]

theorem Returns.checkKey {k : Bytes} {u : PUnit} (h : Returns (checkKey k) tx u tx') : k ≠ [] ∧ tx' = tx := by
  unfold Txn.checkKey at h
  split at h
  · exact absurd h not_returns_fail
  · rename_i hk
    exact ⟨by simpa using hk, (Returns.pure h).2⟩

theorem Returns.rawGet {k : Bytes} {r : Option Bytes} (h : Returns (rawGet k) tx r tx') :
    k ≠ [] ∧ tx' = tx ∧ r = found tx k := by
  unfold Txn.rawGet at h
  obtain ⟨_, t1, hc, h1⟩ := Returns.bind h
  obtain ⟨hk, rfl⟩ := hc.checkKey
  obtain ⟨t, t2, hg, h2⟩ := Returns.bind h1
  obtain ⟨rfl, rfl⟩ := hg.get
  obtain ⟨raw, t3, hl, h3⟩ := Returns.bind h2
  obtain ⟨hraw, rfl⟩ := hl.lift
  refine ⟨hk, ?_⟩
  unfold found
  rw [← Tx.raw_eq_ok hraw]
  cases raw with
  | none =>
    obtain ⟨rfl, rfl⟩ := Returns.pure h3
    exact ⟨rfl, rfl⟩
  | some v =>
    by_cases hv : v = []
    · subst hv
      obtain ⟨rfl, rfl⟩ := Returns.pure h3
      exact ⟨rfl, rfl⟩
    · simp only [List.isEmpty_iff, hv, if_false] at h3
      obtain ⟨rfl, rfl⟩ := Returns.pure h3
      simp [Option.filter_some, hv]

theorem Returns.has {k : Bytes} {r : Bool} (h : Returns (has k) tx r tx') :
    k ≠ [] ∧ tx' = tx ∧ r = (found tx k).isSome := by
  unfold Txn.has at h
  obtain ⟨v, t1, hr, h1⟩ := Returns.bind h
  obtain ⟨hk, rfl, rfl⟩ := hr.rawGet
  obtain ⟨rfl, rfl⟩ := Returns.pure h1
  exact ⟨hk, rfl, rfl⟩

/-- A read leaves the transaction as it was, finds nothing where nothing is
stored, and decodes what is stored. -/
theorem Returns.read {shape : Rlp.Shape} {k : Bytes} {r : Option Rlp.Value} (h : Returns (read shape k) tx r tx') :
    tx' = tx ∧ (found tx k = none → r = none) ∧ ∀ b, found tx k = some b → ∃ v, Rlp.decode shape b = .ok v ∧ r = some v := by
  unfold Txn.read at h
  obtain ⟨v, t1, hr, h1⟩ := Returns.bind h
  obtain ⟨-, rfl, rfl⟩ := hr.rawGet
  split at h1
  · rename_i hn
    obtain ⟨rfl, rfl⟩ := Returns.pure h1
    refine ⟨rfl, fun _ => rfl, fun b hb => ?_⟩
    rw [hn] at hb
    cases hb
  · rename_i b hb
    split at h1
    · rename_i v hd
      obtain ⟨rfl, rfl⟩ := Returns.pure h1
      refine ⟨rfl, fun hn => ?_, fun b' hb' => ?_⟩
      · rw [hb] at hn
        cases hn
      · rw [hb] at hb'
        cases hb'
        exact ⟨v, hd, rfl⟩
    · exact absurd h1 not_returns_fail

theorem Returns.stage {k : Bytes} {v : Option Bytes} {u : PUnit} (h : Returns (stage k v) tx u tx') :
    tx.readOnly = false ∧ tx' = tx.restaged k v := by
  unfold Txn.stage at h
  obtain ⟨t, t1, hg, h1⟩ := Returns.bind h
  obtain ⟨rfl, rfl⟩ := hg.get
  split at h1
  · exact absurd h1 not_returns_fail
  · rename_i hr
    unfold Returns at h1
    cases h1
    exact ⟨by simpa using hr, rfl⟩

theorem Returns.write {k : Bytes} {v : Rlp.Value} {u : PUnit} (h : Returns (write k v) tx u tx') :
    k ≠ [] ∧ tx.readOnly = false ∧ tx' = tx.restaged k (some (Rlp.encode v)) := by
  unfold Txn.write at h
  obtain ⟨_, t1, hc, h1⟩ := Returns.bind h
  obtain ⟨hk, rfl⟩ := hc.checkKey
  exact ⟨hk, h1.stage⟩

theorem Returns.readList {k : Bytes} {r : List Bytes} (h : Returns (readList k) tx r tx') : tx' = tx := by
  unfold Txn.readList at h
  obtain ⟨v, t1, hr, h1⟩ := Returns.bind h
  obtain ⟨rfl, -, -⟩ := hr.read
  split at h1 <;> exact (Returns.pure h1).2

theorem Returns.append {k v : Bytes} {u : PUnit} (h : Returns (append k v) tx u tx') :
    k ≠ [] ∧ (tx' = tx ∨ ∃ b, tx.readOnly = false ∧ tx' = tx.restaged k (some b)) := by
  unfold Txn.append at h
  obtain ⟨_, t1, hc, h1⟩ := Returns.bind h
  obtain ⟨hk, rfl⟩ := hc.checkKey
  obtain ⟨xs, t2, hl, h2⟩ := Returns.bind h1
  obtain rfl := hl.readList
  refine ⟨hk, ?_⟩
  split at h2
  · exact .inl (Returns.pure h2).2
  · exact .inr ⟨_, h2.stage⟩

/-- A read of a list finds the empty list where nothing is stored, and
otherwise the byte strings of the list its bytes decode to. -/
theorem Returns.readList_found {k : Bytes} {xs : List Bytes} (h : Returns (Txn.readList k) tx xs tx') :
    (found tx k = none → xs = []) ∧
      ∀ b ys, found tx k = some b → Rlp.decode blobList b = .ok (.items (ys.map .bytes)) → xs = ys := by
  unfold Txn.readList at h
  obtain ⟨v, t1, hr, h1⟩ := Returns.bind h
  obtain ⟨rfl, hn, hs⟩ := hr.read
  refine ⟨fun hf => ?_, fun b ys hf hd => ?_⟩
  · rw [hn hf] at h1
    exact (Returns.pure h1).1
  · obtain ⟨v', hd', rfl⟩ := hs b hf
    rw [hd] at hd'
    cases hd'
    obtain ⟨rfl, -⟩ := Returns.pure h1
    simp [List.filterMap_map]

/-- An append reads the list under its key; it writes nothing when the value
is listed, and otherwise writes the list back with the value at its end. -/
theorem Returns.append_list {k v : Bytes} {u : PUnit} (h : Returns (Txn.append k v) tx u tx') :
    ∃ xs, Returns (Txn.readList k) tx xs tx ∧ (v ∈ xs → tx' = tx) ∧
      (v ∉ xs → tx' = tx.restaged k (some (Rlp.encode (.items ((xs ++ [v]).map .bytes))))) := by
  unfold Txn.append at h
  obtain ⟨_, t1, hc, h1⟩ := Returns.bind h
  obtain ⟨-, rfl⟩ := hc.checkKey
  obtain ⟨xs, t2, hl, h2⟩ := Returns.bind h1
  obtain rfl := hl.readList
  refine ⟨xs, hl, fun hv => ?_, fun hv => ?_⟩
  · rw [if_pos (List.contains_iff_mem.mpr hv)] at h2
    exact (Returns.pure h2).2
  · rw [if_neg (fun hc => hv (List.contains_iff_mem.mp hc))] at h2
    exact h2.stage.2

theorem Returns.keys {p : Bytes} {r : List Bytes} (h : Returns (keys p) tx r tx') : tx' = tx := by
  unfold Txn.keys at h
  obtain ⟨t, t1, hg, h1⟩ := Returns.bind h
  obtain ⟨rfl, rfl⟩ := hg.get
  obtain ⟨c, t2, hl, h2⟩ := Returns.bind h1
  obtain ⟨-, rfl⟩ := hl.lift
  exact (Returns.pure h2).2

end Txn

end Issuance.Store
