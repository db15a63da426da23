import Mathlib
import Issuance.Store.Tx
/-! # What a transaction sees

`Tx.lookup`: a key's staged write, else its committed value. Writing a key
changes the view there only, and a transaction staging each key once
commits what it sees. -/
namespace Issuance.Store

set_option linter.dupNamespace false

namespace Store

theorem find?_insertSorted_of_ne {k v k' : Bytes} (h : k' ≠ k) (l : List (Bytes × Bytes)) :
    (insertSorted k v l).find? (·.1 == k') = l.find? (·.1 == k') := by
  induction l with
  | nil => simp [insertSorted, Ne.symm h]
  | cons e rest ih =>
    obtain ⟨k1, v1⟩ := e
    simp only [insertSorted]
    split
    · rename_i he
      have hk : k1 ≠ k' := by simp at he; rw [he]; exact Ne.symm h
      simp [Ne.symm h, hk]
    · split
      · simp [Ne.symm h]
      · simp only [List.find?_cons, ih]

@[simp] theorem get?_put (s : Store) (k v k' : Bytes) :
    (s.put k v).get? k' = if k' = k then some v else s.get? k' := by
  split
  · subst k'; exact get?_put_self s k v
  · rename_i h
    simp only [get?, put, find?_insertSorted_of_ne h]

@[simp] theorem get?_erase (s : Store) (k k' : Bytes) :
    (s.erase k).get? k' = if k' = k then none else s.get? k' := by
  simp only [get?, erase]
  split
  · subst k'
    simp [List.find?_filter]
  · rename_i h
    rw [List.find?_filter]
    congr 2
    funext e
    by_cases he : e.1 = k' <;> simp [he, h]

/-- One write of a batch applied to a store. -/
def step (s : Store) (w : Write) : Store :=
  match w.2 with
  | some v => s.put w.1 v
  | none => s.erase w.1

theorem apply_cons (s : Store) (w : Write) (ws : List Write) : s.apply (w :: ws) = (s.step w).apply ws := rfl

theorem get?_step (s : Store) (w : Write) (k : Bytes) :
    (s.step w).get? k = if k = w.1 then w.2 else s.get? k := by
  obtain ⟨k', v⟩ := w
  cases v <;> simp [step]

theorem get?_apply_of_not_mem {ws : List Write} {k : Bytes} (h : k ∉ ws.map Prod.fst) (s : Store) :
    (s.apply ws).get? k = s.get? k := by
  induction ws generalizing s with
  | nil => rfl
  | cons w ws ih =>
    simp only [List.map_cons, List.mem_cons, not_or] at h
    rw [apply_cons, ih h.2, get?_step, if_neg h.1]

theorem get?_apply {ws : List Write} (hn : (ws.map Prod.fst).Nodup) (s : Store) (k : Bytes) :
    (s.apply ws).get? k = match ws.find? (·.1 == k) with
      | some w => w.2
      | none => s.get? k := by
  induction ws generalizing s with
  | nil => rfl
  | cons w ws ih =>
    obtain ⟨hw, hn⟩ := List.nodup_cons.mp hn
    rw [apply_cons, List.find?_cons]
    by_cases hk : w.1 = k
    · subst k
      simp [get?_apply_of_not_mem hw, get?_step]
    · have hb : (w.1 == k) = false := by simpa using hk
      rw [ih hn, get?_step, if_neg (Ne.symm hk), hb]

end Store

namespace Tx

/-- The value of a key inside the transaction: its staged write, else the
committed value. -/
def lookup (tx : Tx) (k : Bytes) : Option Bytes :=
  match tx.stagedAt k with
  | some v => v
  | none => tx.db.store.get? k

/-- The keys written so far. -/
def writtenKeys (tx : Tx) : List Bytes := tx.staged.map Prod.fst

theorem find?_restage_self (k : Bytes) (v : Option Bytes) (l : List (Bytes × Option Bytes)) :
    (restage k v l).find? (·.1 == k) = some (k, v) := by
  induction l with
  | nil => simp [restage]
  | cons e rest ih =>
    simp only [restage]
    split
    · simp
    · rename_i he
      simp [he, ih]

theorem find?_restage_of_ne {k k' : Bytes} (h : k' ≠ k) (v : Option Bytes) (l : List (Bytes × Option Bytes)) :
    (restage k v l).find? (·.1 == k') = l.find? (·.1 == k') := by
  induction l with
  | nil => simp [restage, Ne.symm h]
  | cons e rest ih =>
    simp only [restage]
    split
    · rename_i he
      have hk : e.1 ≠ k' := by simp at he; rw [he]; exact Ne.symm h
      simp [Ne.symm h, hk]
    · simp only [List.find?_cons, ih]

theorem map_fst_restage (k : Bytes) (v : Option Bytes) (l : List (Bytes × Option Bytes)) :
    (restage k v l).map Prod.fst = if k ∈ l.map Prod.fst then l.map Prod.fst else l.map Prod.fst ++ [k] := by
  induction l with
  | nil => simp [restage]
  | cons e rest ih =>
    simp only [restage]
    split
    · rename_i he
      have hk : e.1 = k := by simpa using he
      simp [hk]
    · rename_i he
      have hk : e.1 ≠ k := by simpa using he
      simp only [List.map_cons, ih, List.mem_cons, Ne.symm hk, false_or]
      split <;> simp

theorem nodup_restage {l : List (Bytes × Option Bytes)} (hn : (l.map Prod.fst).Nodup) (k : Bytes)
    (v : Option Bytes) : ((restage k v l).map Prod.fst).Nodup := by
  rw [map_fst_restage]
  split
  · exact hn
  · rename_i hk
    exact List.nodup_append.mpr ⟨hn, by simp, fun a ha b hb => by
      simp only [List.mem_singleton] at hb; subst b; exact fun he => hk (he ▸ ha)⟩

@[simp] theorem lookup_restage (tx : Tx) (k : Bytes) (v : Option Bytes) (k' : Bytes) :
    ({ tx with staged := restage k v tx.staged } : Tx).lookup k' = if k' = k then v else tx.lookup k' := by
  simp only [lookup, stagedAt]
  by_cases h : k' = k
  · subst k'; simp [find?_restage_self]
  · simp [find?_restage_of_ne h, h]

theorem raw_eq_ok {tx : Tx} {k : Bytes} {r : Option Bytes} (h : tx.raw k = .ok r) : r = tx.lookup k := by
  unfold raw at h
  unfold lookup
  cases hv : tx.stagedAt k with
  | some v =>
    simp only [hv] at h
    exact (Except.ok.inj h).symm
  | none =>
    simp only [hv] at h
    unfold Database.read at h
    split at h
    · cases h
    · split at h
      · cases h
      · exact (Except.ok.inj h).symm

theorem commit_lookup {tx : Tx} {db : Database} (hn : tx.writtenKeys.Nodup) (hr : tx.readOnly = false)
    (h : tx.commit = .ok db) (k : Bytes) : db.store.get? k = tx.lookup k := by
  unfold commit at h
  simp only [hr, Bool.false_or] at h
  unfold lookup stagedAt
  split at h
  · rename_i he
    cases h
    simp [List.isEmpty_iff.mp he]
  · split at h
    · rename_i db' hw
      cases h
      unfold Database.write at hw
      split at hw
      · cases hw
      · split at hw
        · cases hw
        · cases hw
          rw [Store.get?_apply hn]
          cases tx.staged.find? (·.1 == k) <;> rfl
    · cases h

end Tx

end Issuance.Store
