import Mathlib
import Issuance.Proofs.Store.Run
/-! # A transaction is its store with the writes applied

Two ordered stores that read alike are equal. Calls on a transaction answer
as on the committed store with the earlier writes applied; so do its key
listing and commit. A read-only transaction refuses every write. -/
namespace Issuance

namespace Bytes

/-- `a` comes strictly before `b` in byte order. -/
abbrev Before (a b : Bytes) : Prop := Bytes.lt a b = true

@[simp] theorem before_nil (a : Bytes) : ¬ Before a [] := by
  cases a <;> simp [Before, Bytes.lt]

@[simp] theorem nil_before_cons (y : UInt8) (ys : Bytes) : Before [] (y :: ys) := rfl

theorem before_cons_cons {x y : UInt8} {xs ys : Bytes} :
    Before (x :: xs) (y :: ys) ↔ x.toNat < y.toNat ∨ x = y ∧ Before xs ys := by
  simp only [Before, Bytes.lt, UInt8.lt_iff_toNat_lt]
  by_cases h1 : x.toNat < y.toNat
  · simp [h1]
  · by_cases h2 : y.toNat < x.toNat
    · have hne : x ≠ y := fun h => by subst h; omega
      simp [h1, h2, hne]
    · have heq : x = y := UInt8.toNat_inj.mp (by omega)
      simp [heq]

theorem lt_irrefl (a : Bytes) : ¬ Before a a := by
  induction a with
  | nil => simp
  | cons x xs ih => simpa [before_cons_cons] using ih

theorem lt_trans {a b c : Bytes} (hab : Before a b) (hbc : Before b c) : Before a c := by
  induction a generalizing b c with
  | nil =>
    obtain ⟨y, ys, rfl⟩ := List.exists_cons_of_ne_nil (fun h : b = [] => by simp [h] at hab)
    obtain ⟨z, zs, rfl⟩ := List.exists_cons_of_ne_nil (fun h : c = [] => by simp [h] at hbc)
    exact nil_before_cons z zs
  | cons x xs ih =>
    obtain ⟨y, ys, rfl⟩ := List.exists_cons_of_ne_nil (fun h : b = [] => by simp [h] at hab)
    obtain ⟨z, zs, rfl⟩ := List.exists_cons_of_ne_nil (fun h : c = [] => by simp [h] at hbc)
    rw [before_cons_cons] at hab hbc ⊢
    rcases hab with hxy | ⟨rfl, hxs⟩ <;> rcases hbc with hyz | ⟨rfl, hys⟩
    · exact .inl (by omega)
    · exact .inl hxy
    · exact .inl hyz
    · exact .inr ⟨rfl, ih hxs hys⟩

theorem lt_trichotomy (a b : Bytes) : Before a b ∨ a = b ∨ Before b a := by
  induction a generalizing b with
  | nil =>
    cases b with
    | nil => exact .inr (.inl rfl)
    | cons y ys => exact .inl (nil_before_cons y ys)
  | cons x xs ih =>
    cases b with
    | nil => exact .inr (.inr (nil_before_cons x xs))
    | cons y ys =>
      simp only [before_cons_cons, List.cons.injEq]
      by_cases h1 : x.toNat < y.toNat
      · exact .inl (.inl h1)
      by_cases h2 : y.toNat < x.toNat
      · exact .inr (.inr (.inl h2))
      have hxy : x = y := UInt8.toNat_inj.mp (by omega)
      subst hxy
      rcases ih ys with h | rfl | h
      · exact .inl (.inr ⟨rfl, h⟩)
      · exact .inr (.inl ⟨rfl, rfl⟩)
      · exact .inr (.inr (.inr ⟨rfl, h⟩))

theorem lt_asymm {a b : Bytes} (hab : Before a b) : ¬ Before b a :=
  fun hba => lt_irrefl a (lt_trans hab hba)

theorem eq_of_pairwise_of_mem_iff {l₁ l₂ : List Bytes} (h₁ : l₁.Pairwise Before) (h₂ : l₂.Pairwise Before)
    (h : ∀ a, a ∈ l₁ ↔ a ∈ l₂) : l₁ = l₂ := by
  have hn₁ : l₁.Nodup := h₁.imp fun {a _} hab => by rintro rfl; exact lt_irrefl a hab
  have hn₂ : l₂.Nodup := h₂.imp fun {a _} hab => by rintro rfl; exact lt_irrefl a hab
  exact ((List.perm_ext_iff_of_nodup hn₁ hn₂).mpr h).eq_of_pairwise
    (fun a b _ _ hab hba => absurd hba (lt_asymm hab)) h₁ h₂

end Bytes

namespace Store

open Bytes (Before)

set_option linter.dupNamespace false

namespace Store

/-- The entries in strictly ascending key order, as a database keeps them. -/
def Ordered (s : Store) : Prop := (s.entries.map Prod.fst).Pairwise Before

instance (s : Store) : Decidable s.Ordered := inferInstanceAs (Decidable (List.Pairwise _ _))

theorem ordered_empty : ({} : Store).Ordered := List.Pairwise.nil

theorem mem_insertSorted {k v x : Bytes} {l : List (Bytes × Bytes)} :
    x ∈ (insertSorted k v l).map Prod.fst ↔ x = k ∨ x ∈ l.map Prod.fst := by
  induction l with
  | nil => simp [insertSorted]
  | cons e rest ih =>
    obtain ⟨k', v'⟩ := e
    simp only [insertSorted]
    split
    · rename_i he
      have hk : k' = k := by simpa using he
      simp [hk]
    · split
      · simp
      · simp only [List.map_cons, List.mem_cons, ih]
        tauto

theorem pairwise_insertSorted (k v : Bytes) {l : List (Bytes × Bytes)} (h : (l.map Prod.fst).Pairwise Before) :
    ((insertSorted k v l).map Prod.fst).Pairwise Before := by
  induction l with
  | nil => simp [insertSorted]
  | cons e rest ih =>
    obtain ⟨k', v'⟩ := e
    rw [List.map_cons, List.pairwise_cons] at h
    simp only [insertSorted]
    split
    · rename_i he
      have hk : k' = k := by simpa using he
      simpa [hk] using h
    · split
      · rename_i _ hlt
        simp only [List.map_cons, List.pairwise_cons, List.mem_cons]
        refine ⟨?_, h.1, h.2⟩
        rintro x (rfl | hx)
        · exact hlt
        · exact Bytes.lt_trans hlt (h.1 x hx)
      · rename_i hne hlt
        -- neither equal nor after `k`, so `k'` comes before `k`
        have hk' : Before k' k := by
          rcases Bytes.lt_trichotomy k' k with h' | h' | h'
          · exact h'
          · simp [h'] at hne
          · exact absurd h' hlt
        simp only [List.map_cons, List.pairwise_cons]
        refine ⟨fun x hx => ?_, ih h.2⟩
        rcases mem_insertSorted.mp hx with rfl | hx
        · exact hk'
        · exact h.1 x hx

theorem Ordered.put {s : Store} (h : s.Ordered) (k v : Bytes) : (s.put k v).Ordered :=
  pairwise_insertSorted k v h

theorem Ordered.erase {s : Store} (h : s.Ordered) (k : Bytes) : (s.erase k).Ordered :=
  h.sublist ((List.filter_sublist).map Prod.fst)

theorem Ordered.apply {s : Store} (h : s.Ordered) (ws : List Write) : (s.apply ws).Ordered := by
  induction ws generalizing s with
  | nil => exact h
  | cons w ws ih =>
    rw [apply_cons]
    apply ih
    obtain ⟨k, v⟩ := w
    cases v with
    | none => exact h.erase k
    | some v => exact h.put k v

theorem isSome_get? (s : Store) (k : Bytes) : (s.get? k).isSome ↔ k ∈ s.entries.map Prod.fst := by
  simp [get?, List.find?_isSome]

theorem find?_value_eq_some {β : Type} {l : List (Bytes × β)} (hn : (l.map Prod.fst).Nodup) {k : Bytes} {v : β} :
    (l.find? (·.1 == k)).map (·.2) = some v ↔ (k, v) ∈ l := by
  constructor
  · intro he
    obtain ⟨e, hf, rfl⟩ := Option.map_eq_some_iff.mp he
    have hk : e.1 = k := by simpa using List.find?_some hf
    rw [← hk]
    exact List.mem_of_find?_eq_some hf
  · intro hm
    have hsome : (l.find? fun e => e.1 == k).isSome := List.find?_isSome.mpr ⟨(k, v), hm, by simp⟩
    obtain ⟨e, hf⟩ := Option.isSome_iff_exists.mp hsome
    have hk : e.1 = k := by simpa using List.find?_some hf
    have he : e = (k, v) := List.inj_on_of_nodup_map hn (List.mem_of_find?_eq_some hf) hm hk
    simp [hf, he]

theorem Ordered.nodup {s : Store} (h : s.Ordered) : (s.entries.map Prod.fst).Nodup :=
  h.imp fun {a _} hab => by rintro rfl; exact Bytes.lt_irrefl a hab

theorem Ordered.get?_eq_some {s : Store} (h : s.Ordered) {k v : Bytes} : s.get? k = some v ↔ (k, v) ∈ s.entries :=
  find?_value_eq_some h.nodup

theorem Ordered.ext {s t : Store} (hs : s.Ordered) (ht : t.Ordered) (h : ∀ k, s.get? k = t.get? k) : s = t := by
  have hn : ∀ u : Store, u.Ordered → u.entries.Nodup := fun u hu => List.Nodup.of_map Prod.fst hu.nodup
  have hmem : ∀ e, e ∈ s.entries ↔ e ∈ t.entries := by
    rintro ⟨k, v⟩
    rw [← hs.get?_eq_some, ← ht.get?_eq_some, h k]
  have hp := (List.perm_ext_iff_of_nodup (hn s hs) (hn t ht)).mpr hmem
  have hps : s.entries.Pairwise fun a b => Before a.1 b.1 := List.pairwise_map.mp hs
  have hpt : t.entries.Pairwise fun a b => Before a.1 b.1 := List.pairwise_map.mp ht
  have he : s.entries = t.entries :=
    hp.eq_of_pairwise (fun a b _ _ hab hba => absurd hba (Bytes.lt_asymm hab)) hps hpt
  cases s
  cases t
  simpa using he

theorem mem_keys {s : Store} {p k : Bytes} : k ∈ s.keys p ↔ Bytes.startsWith k p ∧ (s.get? k).isSome := by
  rw [isSome_get?]
  simp only [keys, List.mem_map, List.mem_filter]
  constructor
  · rintro ⟨e, ⟨he, hp⟩, rfl⟩
    exact ⟨hp, e, he, rfl⟩
  · rintro ⟨hp, e, he, rfl⟩
    exact ⟨e, ⟨he, hp⟩, rfl⟩

theorem Ordered.keys {s : Store} (h : s.Ordered) (p : Bytes) : (s.keys p).Pairwise Before :=
  h.sublist ((List.filter_sublist).map Prod.fst)

end Store

/-! ## Reads through a transaction -/

namespace Tx

/-- A transaction over a database that answers every call reads the
committed store under whatever it has not written. -/
theorem raw_of_db {tx : Tx} {s : Store} (hdb : tx.db = { store := s }) (k : Bytes) :
    tx.raw k = .ok (tx.lookup k) := by
  unfold raw lookup
  cases tx.stagedAt k with
  | some v => rfl
  | none => simp [hdb, Database.read, Database.trips, Database.closedFault]

end Tx

namespace Txn

variable {tx tx' : Tx} {k : Bytes}

theorem rawGet_eq (h : tx.raw k = .ok (tx.lookup k)) :
    rawGet k tx = if k = [] then .error emptyKey else .ok (found tx k, tx) := by
  unfold rawGet checkKey found
  by_cases hk : k = []
  · simp [hk, fail, bind, StateT.bind, Except.bind]
  · cases hl : tx.lookup k with
    | none => simp [hk, h, hl, lift, bind, StateT.bind, Except.bind, get, getThe, MonadStateOf.get, StateT.get,
        pure, StateT.pure, Except.pure, Except.map, Option.filter]
    | some v =>
      by_cases hv : v = [] <;> simp [hk, h, hl, hv, lift, bind, StateT.bind, Except.bind, get, getThe,
        MonadStateOf.get, StateT.get, pure, StateT.pure, Except.pure, Except.map, Option.filter]

theorem read_congr (h : tx.raw k = .ok (tx.lookup k)) (h' : tx'.raw k = .ok (tx'.lookup k))
    (hf : found tx k = found tx' k) (shape : Rlp.Shape) :
    read shape k tx = (read shape k tx').map fun p => (p.1, tx) := by
  unfold read
  simp only [bind, StateT.bind, rawGet_eq h, rawGet_eq h', hf]
  by_cases hk : k = []
  · simp [hk, Except.bind, Except.map]
  · simp only [hk, if_false, Except.bind]
    cases found tx' k with
    | none => rfl
    | some b =>
      cases hd : Rlp.decode shape b <;> simp [hd, pure, StateT.pure, Except.pure, fail, Except.map]

theorem readList_congr (h : tx.raw k = .ok (tx.lookup k)) (h' : tx'.raw k = .ok (tx'.lookup k))
    (hf : found tx k = found tx' k) :
    readList k tx = (readList k tx').map fun p => (p.1, tx) := by
  unfold readList
  simp only [bind, StateT.bind, read_congr h h' hf]
  cases read blobList k tx' with
  | error e => rfl
  | ok p =>
    obtain ⟨r, t⟩ := p
    simp only [Except.map, Except.bind]
    split <;> rfl

theorem notAfter_trans {a b c : Bytes} (hab : (!Bytes.lt b a) = true) (hbc : (!Bytes.lt c b) = true) :
    (!Bytes.lt c a) = true := by
  simp only [Bool.not_eq_eq_eq_not, Bool.not_true] at hab hbc ⊢
  rcases Bytes.lt_trichotomy a b with h | rfl | h
  · cases hca : Bytes.lt c a
    · rfl
    · exact absurd (Bytes.lt_trans hca h) (by simp [hbc])
  · exact hbc
  · simp [h] at hab

theorem notAfter_total (a b : Bytes) : ((!Bytes.lt b a) || !Bytes.lt a b) = true := by
  cases hba : Bytes.lt b a
  · rfl
  · have := Bytes.lt_asymm hba
    simp_all

theorem pairwise_before_mergeSort {l : List Bytes} (hn : l.Nodup) :
    (l.mergeSort fun a b => !Bytes.lt b a).Pairwise Bytes.Before := by
  have hs : (l.mergeSort fun a b => !Bytes.lt b a).Pairwise fun a b => (!Bytes.lt b a) = true :=
    @List.pairwise_mergeSort Bytes (fun a b => !Bytes.lt b a) (fun a b c => notAfter_trans)
      (fun a b => notAfter_total a b) l
  have hn' : (l.mergeSort fun a b => !Bytes.lt b a).Nodup := (List.mergeSort_perm l _).nodup_iff.mpr hn
  refine (hs.and hn').imp fun {a b} ⟨hab, hne⟩ => ?_
  rcases Bytes.lt_trichotomy a b with h | rfl | h
  · exact h
  · exact absurd rfl hne
  · simp [h] at hab

theorem stagedAt_eq_some {tx : Tx} (hn : tx.writtenKeys.Nodup) {k : Bytes} {v : Option Bytes} :
    tx.stagedAt k = some v ↔ (k, v) ∈ tx.staged :=
  Store.find?_value_eq_some hn

/-- A transaction lists under a prefix, ascending, the keys it sees: the
committed ones it kept and those it wrote. -/
theorem keys_eq {s d : Store} (hdb : tx.db = { store := s }) (hs : s.Ordered) (hd : d.Ordered)
    (hn : tx.writtenKeys.Nodup) (hv : ∀ k, tx.lookup k = d.get? k) (p : Bytes) :
    keys p tx = .ok (d.keys p, tx) := by
  have hlist : tx.db.list p = .ok (s.keys p) := by
    simp [hdb, Database.list, Database.trips, Database.closedFault]
  simp only [keys, bind, StateT.bind, get, getThe, MonadStateOf.get, StateT.get, pure, StateT.pure, Except.bind,
    Except.pure, lift, hlist, Except.map]
  congr 2
  change (((s.keys p).filter fun k => tx.stagedAt k != some none) ++
    (tx.staged.filter fun e => e.2.isSome && Bytes.startsWith e.1 p && !(s.keys p).contains e.1).map (·.1)).mergeSort
      (fun a b => !Bytes.lt b a) = d.keys p
  set kept := (s.keys p).filter fun k => tx.stagedAt k != some none
  set added := (tx.staged.filter fun e => e.2.isSome && Bytes.startsWith e.1 p && !(s.keys p).contains e.1).map (·.1)
  have hsn : (s.keys p).Nodup := (hs.keys p).imp fun {a _} hab => by rintro rfl; exact Bytes.lt_irrefl a hab
  have hkept : ∀ x, x ∈ kept ↔ x ∈ s.keys p ∧ tx.stagedAt x ≠ some none := by
    intro x
    simp [kept]
  have hadded : ∀ x, x ∈ added ↔ (∃ w, tx.stagedAt x = some (some w)) ∧ Bytes.startsWith x p ∧ x ∉ s.keys p := by
    intro x
    simp only [added, List.mem_map, List.mem_filter, Bool.and_eq_true, stagedAt_eq_some hn]
    constructor
    · rintro ⟨⟨k, v⟩, ⟨hm, ⟨hsome, hp⟩, hc⟩, rfl⟩
      obtain ⟨w, rfl⟩ := Option.isSome_iff_exists.mp hsome
      exact ⟨⟨w, hm⟩, hp, by simpa using hc⟩
    · rintro ⟨⟨w, hm⟩, hp, hc⟩
      exact ⟨(x, some w), ⟨hm, ⟨rfl, hp⟩, by simpa using hc⟩, rfl⟩
  -- the committed keys kept and the keys written are each without repeats, and apart
  have hnodup : (kept ++ added).Nodup := by
    refine List.nodup_append.mpr ⟨hsn.sublist List.filter_sublist, ?_, ?_⟩
    · exact hn.sublist ((List.filter_sublist).map Prod.fst)
    · intro a ha b hb hab
      subst hab
      exact ((hadded a).mp hb).2.2 ((hkept a).mp ha).1
  apply Bytes.eq_of_pairwise_of_mem_iff (pairwise_before_mergeSort hnodup) (hd.keys p)
  intro x
  rw [List.mem_mergeSort, List.mem_append, hkept, hadded, @Store.mem_keys d p x, ← hv, @Store.mem_keys s p x]
  unfold Tx.lookup
  cases hx : tx.stagedAt x with
  | none => simp [hdb]
  | some v =>
    cases v with
    | none => simp
    | some w => cases hsx : s.get? x <;> simp

theorem checkKey_eq : checkKey k tx = if k = [] then .error emptyKey else .ok ((), tx) := by
  unfold checkKey
  by_cases hk : k = [] <;> simp [hk, fail, pure, StateT.pure, Except.pure]

/-- The failure of a write inside a read-only transaction. -/
def readOnlyFault : Fault := Fault.plain "state: read-only transaction"

theorem stage_eq {v : Option Bytes} :
    stage k v tx = if tx.readOnly then .error readOnlyFault else .ok ((), tx.restaged k v) := by
  unfold stage
  by_cases hr : tx.readOnly <;>
    simp [hr, fail, readOnlyFault, bind, StateT.bind, Except.bind, get, getThe, MonadStateOf.get, StateT.get, set,
      StateT.set, Except.pure, pure, Tx.restaged]

theorem write_eq {v : Rlp.Value} :
    write k v tx = if k = [] then .error emptyKey else stage k (some (Rlp.encode v)) tx := by
  unfold write
  by_cases hk : k = [] <;> simp [hk, checkKey_eq, bind, StateT.bind, Except.bind]

theorem erase_eq : erase k tx = if k = [] then .error emptyKey else stage k none tx := by
  unfold erase
  by_cases hk : k = [] <;> simp [hk, checkKey_eq, bind, StateT.bind, Except.bind]

/-- An append reads the list under its key, and stages it back with the
value added unless the value is there. -/
theorem append_eq {v : Bytes} :
    append k v tx = if k = [] then .error emptyKey else match readList k tx with
      | .ok (xs, t) => if xs.contains v then .ok ((), t)
        else stage k (some (Rlp.encode (.items ((xs ++ [v]).map .bytes)))) t
      | .error f => .error f := by
  unfold append
  by_cases hk : k = []
  · simp [hk, checkKey_eq, bind, StateT.bind, Except.bind]
  · simp only [hk, checkKey_eq, if_false, bind, StateT.bind, Except.bind]
    cases readList k tx with
    | error f => rfl
    | ok p =>
      obtain ⟨xs, t⟩ := p
      by_cases hc : xs.contains v
      · simp only [hc, if_true]
        rfl
      · simp only [hc, Bool.false_eq_true, if_false]

end Txn

/-! ## Calls and what they answer -/

/-- What a call of the key-value view answers. -/
inductive Reply
  | done
  | value (v : Option Rlp.Value)
  | list (items : List Bytes)

/-- A call of the key-value view of a transaction: a put, a delete, an
append to the list under a key, a read against a shape, a read of a list,
and a key listing. -/
inductive Call
  | put (k : Bytes) (v : Rlp.Value)
  | delete (k : Bytes)
  | append (k v : Bytes)
  | get (shape : Rlp.Shape) (k : Bytes)
  | getList (k : Bytes)
  | keys (p : Bytes)

namespace Call

/-- The step of a call. -/
def txn : Call → Txn Reply
  | .put k v => do Txn.write k v; pure .done
  | .delete k => do Txn.erase k; pure .done
  | .append k v => do Txn.append k v; pure .done
  | .get shape k => do pure (.value (← Txn.read shape k))
  | .getList k => do pure (.list (← Txn.readList k))
  | .keys p => do pure (.list (← Txn.keys p))

/-- What a call answers on a committed store: the call run in a transaction
over the store that has written nothing. -/
def answer (c : Call) (s : Store) : Except Fault Reply := (c.txn { db := { store := s } }).map Prod.fst

/-- A write applied straight to a store; reads and failed writes leave it. -/
def apply : Call → Store → Store
  | .put k v, s => if k = [] then s else s.put k (Rlp.encode v)
  | .delete k, s => if k = [] then s else s.erase k
  | .append k v, s => match (getList k).answer s with
    | .ok (.list xs) => if xs.contains v then s else s.put k (Rlp.encode (.items ((xs ++ [v]).map .bytes)))
    | _ => s
  | _, s => s

/-- The store after calls, their writes applied one by one. -/
def applyAll (s : Store) (cs : List Call) : Store := cs.foldl (fun s c => c.apply s) s

/-- The answers of calls, each on the store with the writes before it
applied. -/
def replay : Store → List Call → List (Except Fault Reply)
  | _, [] => []
  | s, c :: cs => c.answer s :: replay (c.apply s) cs

end Call

/-- Calls run one after another on one transaction, each answering on its
own: a call that fails leaves the transaction as it was. -/
def Txn.calls (cs : List Call) : Txn (List (Except Fault Reply)) := cs.mapM fun c => Txn.attempt c.txn

theorem Txn.calls_cons (c : Call) (cs : List Call) (tx : Tx) :
    Txn.calls (c :: cs) tx = match Txn.attempt c.txn tx with
      | .ok (r, t) => (Txn.calls cs t).map fun p => (r :: p.1, p.2)
      | .error f => .error f := by
  simp only [Txn.calls, List.mapM_cons, bind, StateT.bind, Except.bind, pure, StateT.pure, Except.pure]
  cases Txn.attempt c.txn tx with
  | error f => rfl
  | ok p =>
    simp only
    cases List.mapM (fun c => Txn.attempt c.txn) cs p.2 <;> rfl

theorem Txn.attempt_of_map {α : Type} {m m' : Txn α} {tx t : Tx} (h : m tx = (m' t).map fun p => (p.1, tx)) :
    Txn.attempt m tx = .ok ((m' t).map Prod.fst, tx) := by
  unfold Txn.attempt
  rw [h]
  cases m' t <;> rfl

/-! ## The overlay -/

/-- A writable transaction over the committed store `s` that sees the store
`d`: it reads as `d` reads and has staged each key once, and both stores are
ordered. -/
structure Overlay (s d : Store) (tx : Tx) : Prop where
  db : tx.db = { store := s }
  writable : tx.readOnly = false
  once : tx.writtenKeys.Nodup
  base : s.Ordered
  ordered : d.Ordered
  view : ∀ k, tx.lookup k = d.get? k

namespace Overlay

variable {s d : Store} {tx : Tx}

theorem start (hs : s.Ordered) : Overlay s s { db := { store := s } } :=
  ⟨rfl, rfl, List.nodup_nil, hs, hs, fun _ => rfl⟩

theorem raw (h : Overlay s d tx) (k : Bytes) : tx.raw k = .ok (tx.lookup k) := Tx.raw_of_db h.db k

theorem found (h : Overlay s d tx) (k : Bytes) : Txn.found tx k = Txn.found { db := { store := d } } k := by
  simp only [Txn.found, h.view k]
  rfl

theorem restage_some (h : Overlay s d tx) (k v : Bytes) : Overlay s (d.put k v) (tx.restaged k (some v)) :=
  ⟨h.db, h.writable, Tx.writtenKeys_restaged h.once k _, h.base, h.ordered.put k v,
    fun k' => by rw [Tx.lookup_restaged, Store.get?_put, h.view]⟩

theorem restage_none (h : Overlay s d tx) (k : Bytes) : Overlay s (d.erase k) (tx.restaged k none) :=
  ⟨h.db, h.writable, Tx.writtenKeys_restaged h.once k _, h.base, h.ordered.erase k,
    fun k' => by rw [Tx.lookup_restaged, Store.get?_erase, h.view]⟩

theorem commit (h : Overlay s d tx) : tx.commit = .ok { store := d } := by
  by_cases he : tx.staged.isEmpty
  · -- nothing staged: the committed store is the store seen
    have hsd : s = d := Store.Ordered.ext h.base h.ordered fun k => by
      rw [← h.view k]
      simp [Tx.lookup, Tx.stagedAt, List.isEmpty_iff.mp he, h.db]
    simp [Tx.commit, h.writable, he, h.db, hsd]
  · have hc : tx.commit = .ok { store := s.apply tx.staged } := by
      simp [Tx.commit, h.writable, he, h.db, Database.write, Database.trips, Database.closedFault]
    have hget := Tx.commit_lookup h.once h.writable hc
    rw [hc]
    congr 2
    exact Store.Ordered.ext (h.base.apply _) h.ordered fun k => by
      rw [hget k, h.view k]

theorem call_get (h : Overlay s d tx) (shape : Rlp.Shape) (k : Bytes) :
    Txn.attempt (Call.get shape k).txn tx = .ok ((Call.get shape k).answer d, tx) := by
  apply Txn.attempt_of_map
  simp only [Call.txn, bind, StateT.bind, Except.bind, pure, StateT.pure, Except.pure,
    Txn.read_congr (h.raw k) (Tx.raw_of_db rfl k) (h.found k) shape]
  cases Txn.read shape k { db := { store := d } } <;> rfl

theorem call_getList (h : Overlay s d tx) (k : Bytes) :
    Txn.attempt (Call.getList k).txn tx = .ok ((Call.getList k).answer d, tx) := by
  apply Txn.attempt_of_map
  simp only [Call.txn, bind, StateT.bind, Except.bind, pure, StateT.pure, Except.pure,
    Txn.readList_congr (h.raw k) (Tx.raw_of_db rfl k) (h.found k)]
  cases Txn.readList k { db := { store := d } } <;> rfl

theorem call_keys (h : Overlay s d tx) (p : Bytes) :
    Txn.attempt (Call.keys p).txn tx = .ok ((Call.keys p).answer d, tx) := by
  apply Txn.attempt_of_map
  have hd := start h.ordered
  simp only [Call.txn, bind, StateT.bind, Except.bind, pure, StateT.pure, Except.pure,
    Txn.keys_eq h.db h.base h.ordered h.once h.view, Txn.keys_eq hd.db hd.base hd.ordered hd.once hd.view]
  rfl

theorem call_put (h : Overlay s d tx) (k : Bytes) (v : Rlp.Value) :
    ∃ tx', Txn.attempt (Call.put k v).txn tx = .ok ((Call.put k v).answer d, tx') ∧
      Overlay s ((Call.put k v).apply d) tx' := by
  by_cases hk : k = []
  · refine ⟨tx, ?_, by simpa [Call.apply, hk] using h⟩
    simp [Txn.attempt, Call.txn, Call.answer, Txn.write_eq, hk, bind, StateT.bind, Except.bind, Except.map]
  · refine ⟨_, ?_, by simpa [Call.apply, hk] using h.restage_some k (Rlp.encode v)⟩
    simp [Txn.attempt, Call.txn, Call.answer, Txn.write_eq, Txn.stage_eq, hk, h.writable, bind, StateT.bind,
      Except.bind, Except.map, pure, StateT.pure, Except.pure]

theorem call_delete (h : Overlay s d tx) (k : Bytes) :
    ∃ tx', Txn.attempt (Call.delete k).txn tx = .ok ((Call.delete k).answer d, tx') ∧
      Overlay s ((Call.delete k).apply d) tx' := by
  by_cases hk : k = []
  · refine ⟨tx, ?_, by simpa [Call.apply, hk] using h⟩
    simp [Txn.attempt, Call.txn, Call.answer, Txn.erase_eq, hk, bind, StateT.bind, Except.bind, Except.map]
  · refine ⟨_, ?_, by simpa [Call.apply, hk] using h.restage_none k⟩
    simp [Txn.attempt, Call.txn, Call.answer, Txn.erase_eq, Txn.stage_eq, hk, h.writable, bind, StateT.bind,
      Except.bind, Except.map, pure, StateT.pure, Except.pure]

theorem answer_getList (k : Bytes) :
    (Call.getList k).answer d = (Txn.readList k { db := { store := d } }).map fun p => Reply.list p.1 := by
  simp only [Call.answer, Call.txn, bind, StateT.bind, Except.bind, pure, StateT.pure, Except.pure]
  cases Txn.readList k { db := { store := d } } <;> rfl

theorem call_append (h : Overlay s d tx) (k v : Bytes) :
    ∃ tx', Txn.attempt (Call.append k v).txn tx = .ok ((Call.append k v).answer d, tx') ∧
      Overlay s ((Call.append k v).apply d) tx' := by
  have hl := Txn.readList_congr (h.raw k) (Tx.raw_of_db rfl k) (h.found k)
  have happly : (Call.append k v).apply d = match (Txn.readList k { db := { store := d } }) with
      | .ok (xs, _) => if v ∈ xs then d else d.put k (Rlp.encode (.items ((xs ++ [v]).map .bytes)))
      | .error _ => d := by
    simp only [Call.apply, answer_getList]
    cases Txn.readList k { db := { store := d } } with
    | error f => rfl
    | ok p => simp [Except.map]
  simp only [Txn.attempt, Call.txn, Call.answer, bind, StateT.bind, Except.bind, Except.map, pure, StateT.pure,
    Except.pure, Txn.append_eq, hl, happly]
  by_cases hk : k = []
  · -- an empty key is refused before anything is read
    have hf : Txn.readList k { db := { store := d } } = .error Txn.emptyKey := by
      simp [hk, Txn.readList, Txn.read, Txn.rawGet, Txn.checkKey, Txn.fail, bind, StateT.bind, Except.bind]
    exact ⟨tx, by simp [hk], by simpa [hf] using h⟩
  · cases hr : Txn.readList k { db := { store := d } } with
    | error f => exact ⟨tx, by simp [hk], h⟩
    | ok p =>
      obtain ⟨xs, t⟩ := p
      -- the fresh transaction is left as it was by the read
      obtain rfl : t = { db := { store := d } } := Txn.Returns.readList hr
      by_cases hc : v ∈ xs
      · exact ⟨tx, by simp [hk, hc], by simpa [hc] using h⟩
      · refine ⟨_, ?_, by simpa [hc] using h.restage_some k _⟩
        simp [hk, hc, Txn.stage_eq, h.writable]

/-- Each call answers on the transaction as it answers on the store the
transaction sees, and the transaction goes on to see that store with the
call's write applied. -/
theorem call (h : Overlay s d tx) (c : Call) :
    ∃ tx', Txn.attempt c.txn tx = .ok (c.answer d, tx') ∧ Overlay s (c.apply d) tx' := by
  cases c with
  | put k v => exact h.call_put k v
  | delete k => exact h.call_delete k
  | append k v => exact h.call_append k v
  | get shape k => exact ⟨tx, h.call_get shape k, h⟩
  | getList k => exact ⟨tx, h.call_getList k, h⟩
  | keys p => exact ⟨tx, h.call_keys p, h⟩

/-- Calls in sequence answer as they answer on the store with the earlier
writes applied, and leave the transaction seeing every write applied. -/
theorem calls (h : Overlay s d tx) (cs : List Call) :
    ∃ tx', Txn.calls cs tx = .ok (Call.replay d cs, tx') ∧ Overlay s (Call.applyAll d cs) tx' := by
  induction cs generalizing d tx with
  | nil => exact ⟨tx, rfl, h⟩
  | cons c cs ih =>
    obtain ⟨t, hc, ht⟩ := h.call c
    obtain ⟨tx', hcs, h'⟩ := ih ht
    exact ⟨tx', by rw [Txn.calls_cons, hc]; simp [hcs, Except.map, Call.replay], h'⟩

end Overlay

/-! ## Read-only transactions -/

namespace Call

variable {tx tx' : Tx}

theorem returns_readOnly {c : Call} {r : Reply} (hr : tx.readOnly = true) (h : Txn.Returns c.txn tx r tx') :
    tx' = tx := by
  cases c with
  | put k v =>
    obtain ⟨_, t, hw, -⟩ := Txn.Returns.bind h
    simp [hw.write.2.1] at hr
  | delete k =>
    obtain ⟨_, t, he, -⟩ := Txn.Returns.bind h
    obtain ⟨_, t', hc, hs⟩ := Txn.Returns.bind he
    obtain ⟨-, rfl⟩ := hc.checkKey
    simp [hs.stage.1] at hr
  | append k v =>
    obtain ⟨_, t, ha, hp⟩ := Txn.Returns.bind h
    rcases ha.append.2 with rfl | ⟨b, hw, -⟩
    · exact (Txn.Returns.pure hp).2
    · simp [hw] at hr
  | get shape k =>
    obtain ⟨_, t, hg, hp⟩ := Txn.Returns.bind h
    obtain ⟨rfl, -⟩ := hg.read
    exact (Txn.Returns.pure hp).2
  | getList k =>
    obtain ⟨_, t, hg, hp⟩ := Txn.Returns.bind h
    obtain rfl := hg.readList
    exact (Txn.Returns.pure hp).2
  | keys p =>
    obtain ⟨_, t, hg, hp⟩ := Txn.Returns.bind h
    obtain rfl := hg.keys
    exact (Txn.Returns.pure hp).2

theorem calls_readOnly (hr : tx.readOnly = true) (cs : List Call) : ∃ rs, Txn.calls cs tx = .ok (rs, tx) := by
  induction cs with
  | nil => exact ⟨[], rfl⟩
  | cons c cs ih =>
    obtain ⟨rs, hrs⟩ := ih
    have ha : ∃ r, Txn.attempt c.txn tx = .ok (r, tx) := by
      unfold Txn.attempt
      cases hc : c.txn tx with
      | error f => exact ⟨.error f, rfl⟩
      | ok p =>
        obtain ⟨r, t⟩ := p
        obtain rfl := returns_readOnly hr hc
        exact ⟨.ok r, rfl⟩
    obtain ⟨r, hr'⟩ := ha
    exact ⟨r :: rs, by rw [Txn.calls_cons, hr']; simp [hrs, Except.map]⟩

theorem txn_put_readOnly (hr : tx.readOnly = true) {k : Bytes} (hk : k ≠ []) (v : Rlp.Value) :
    (put k v).txn tx = .error Txn.readOnlyFault := by
  simp [txn, Txn.write_eq, Txn.stage_eq, hk, hr, bind, StateT.bind, Except.bind]

theorem txn_delete_readOnly (hr : tx.readOnly = true) {k : Bytes} (hk : k ≠ []) :
    (delete k).txn tx = .error Txn.readOnlyFault := by
  simp [txn, Txn.erase_eq, Txn.stage_eq, hk, hr, bind, StateT.bind, Except.bind]

/-- A write to the empty key is refused as such, before anything else. -/
theorem txn_write_empty (tx : Tx) (v : Rlp.Value) (w : Bytes) :
    (put [] v).txn tx = .error Txn.emptyKey ∧ (delete []).txn tx = .error Txn.emptyKey ∧
      (append [] w).txn tx = .error Txn.emptyKey := by
  simp [txn, Txn.write_eq, Txn.erase_eq, Txn.append_eq, bind, StateT.bind, Except.bind]

/-- On a read-only transaction an append of a value already listed succeeds
without writing, and any other is refused as a write. -/
theorem txn_append_readOnly (hr : tx.readOnly = true) {k : Bytes} (hk : k ≠ []) {v : Bytes} {xs : List Bytes}
    (hl : Txn.readList k tx = .ok (xs, tx)) :
    (append k v).txn tx = if v ∈ xs then .ok (.done, tx) else .error Txn.readOnlyFault := by
  by_cases hv : v ∈ xs <;>
    simp [txn, Txn.append_eq, Txn.stage_eq, hk, hr, hl, hv, bind, StateT.bind, Except.bind, pure, StateT.pure,
      Except.pure]

theorem apply_ordered {s : Store} (h : s.Ordered) (c : Call) : (c.apply s).Ordered := by
  cases c with
  | put k v =>
    by_cases hk : k = []
    · simpa [apply, hk] using h
    · simpa [apply, hk] using h.put k (Rlp.encode v)
  | delete k =>
    by_cases hk : k = []
    · simpa [apply, hk] using h
    · simpa [apply, hk] using h.erase k
  | append k v =>
    simp only [apply]
    split
    · split
      · exact h
      · exact h.put k _
    · exact h
  | get shape k => exact h
  | getList k => exact h
  | keys p => exact h

theorem applyAll_ordered {s : Store} (h : s.Ordered) (cs : List Call) : (applyAll s cs).Ordered := by
  induction cs generalizing s with
  | nil => exact h
  | cons c cs ih => exact ih (apply_ordered h c)

theorem answer_keys {s : Store} (h : s.Ordered) (p : Bytes) : (keys p).answer s = .ok (.list (s.keys p)) := by
  have hs := Overlay.start h
  simp only [answer, txn, bind, StateT.bind, Except.bind, pure, StateT.pure, Except.pure,
    Txn.keys_eq hs.db hs.base hs.ordered hs.once hs.view]
  rfl

end Call

/-- Calls on a writable transaction over `s` answer, list and commit as `s`
with the earlier writes applied. -/
structure RunsAsApplied (s : Store) (cs : List Call) : Prop where
  answers : ∃ tx, Txn.calls cs { db := { store := s } } = .ok (Call.replay s cs, tx) ∧
    tx.commit = .ok { store := Call.applyAll s cs }
  keys : ∀ i p, ∃ ks, (Call.keys p).answer (Call.applyAll s (cs.take i)) = .ok (.list ks) ∧
    ks.Pairwise Bytes.Before ∧ ∀ k, k ∈ ks ↔ Bytes.startsWith k p ∧ ((Call.applyAll s (cs.take i)).get? k).isSome

/-- A read-only transaction is never changed. A write to the empty key is
refused as such; every other put and delete is refused as a write, and so is
an append, unless its value is listed already: that one succeeds without
writing. -/
structure KeepsReadOnly (tx : Tx) : Prop where
  unchanged : ∀ cs, ∃ rs, Txn.calls cs tx = .ok (rs, tx)
  emptyKey : ∀ v w, (Call.put [] v).txn tx = .error Txn.emptyKey ∧ (Call.delete []).txn tx = .error Txn.emptyKey ∧
    (Call.append [] w).txn tx = .error Txn.emptyKey
  put : ∀ k, k ≠ [] → ∀ v, (Call.put k v).txn tx = .error Txn.readOnlyFault
  delete : ∀ k, k ≠ [] → (Call.delete k).txn tx = .error Txn.readOnlyFault
  append : ∀ k, k ≠ [] → ∀ v xs, Txn.readList k tx = .ok (xs, tx) →
    (Call.append k v).txn tx = if v ∈ xs then .ok (.done, tx) else .error Txn.readOnlyFault

/-- A transaction over an ordered store is that store with its writes applied
in order, and a read-only one refuses every write but an append of a value
already listed, which it lets through without writing. -/
theorem transaction_refines_store (s : Store) (hs : s.Ordered) (cs : List Call) (tx : Tx) (hr : tx.readOnly = true) :
    RunsAsApplied s cs ∧ KeepsReadOnly tx := by
  refine ⟨⟨?_, fun i p => ?_⟩, ⟨Call.calls_readOnly hr, Call.txn_write_empty tx, fun k hk v => Call.txn_put_readOnly hr hk v,
    fun k hk => Call.txn_delete_readOnly hr hk, fun k hk v xs hl => Call.txn_append_readOnly hr hk hl⟩⟩
  · obtain ⟨tx, hcalls, hov⟩ := (Overlay.start hs).calls cs
    exact ⟨tx, hcalls, hov.commit⟩
  · have ho := Call.applyAll_ordered hs (cs.take i)
    exact ⟨_, Call.answer_keys ho p, ho.keys p, fun k => Store.mem_keys⟩

/-- A store holding `a` and, under `idx`, the list `[a]`. -/
def listedIndex : Store := ⟨[([97], Rlp.encode (.num 1)), ([105, 100, 120], Rlp.encode (.items [.bytes [97]]))]⟩

/-- Over `listedIndex`, a delete, a listing, a re-put, appends of a new and of
a listed value and reads answer as the store with the writes applied; and a
read-only transaction over it lets the append of the listed `a` through
without writing. -/
theorem transaction_refines_listed_index :
    listedIndex.Ordered ∧
      RunsAsApplied listedIndex [.delete [97], .keys [], .put [97] (.num 2), .append [105, 100, 120] [98],
        .append [105, 100, 120] [97], .getList [105, 100, 120], .keys []] ∧
      ({ db := { store := listedIndex }, readOnly := true } : Tx).readOnly = true ∧ KeepsReadOnly { db := { store := listedIndex }, readOnly := true } ∧
      (Call.append [105, 100, 120] [97]).txn { db := { store := listedIndex }, readOnly := true } = .ok (.done, { db := { store := listedIndex }, readOnly := true }) := by
  obtain ⟨hruns, hro⟩ := transaction_refines_store listedIndex (by decide) [.delete [97], .keys [], .put [97] (.num 2),
    .append [105, 100, 120] [98], .append [105, 100, 120] [97], .getList [105, 100, 120], .keys []]
    { db := { store := listedIndex }, readOnly := true } rfl
  refine ⟨by decide, hruns, rfl, hro, ?_⟩
  rw [hro.append _ (by decide) [97] [[97]] rfl]
  simp

end Store

end Issuance
