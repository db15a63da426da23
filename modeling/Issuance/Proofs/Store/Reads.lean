import Mathlib
import Issuance.Proofs.Store.Run
/-! # Steps that only read

`Reads m`: `m` answers from the database and staged writes and leaves the
transaction as it was; closed under the monad. -/
namespace Issuance.Store

/-- Two transactions that read alike: one database, the same staged writes. -/
def Tx.SameView (tx tx' : Tx) : Prop := tx.db = tx'.db ∧ tx.staged = tx'.staged

namespace Tx

theorem SameView.refl (tx : Tx) : tx.SameView tx := ⟨rfl, rfl⟩

theorem sameView_start (db : Database) : ({ db := db } : Tx).SameView { db := db, readOnly := true } := ⟨rfl, rfl⟩

theorem SameView.raw {tx tx' : Tx} (h : tx.SameView tx') (k : Bytes) : tx'.raw k = tx.raw k := by
  unfold Tx.raw Tx.stagedAt
  rw [h.1, h.2]

end Tx

namespace Txn

variable {ε ε' α β : Type}

/-- `m` only reads: from any transaction that reads alike it answers the same,
and leaves that transaction as it was. -/
def Reads (m : TxnOf ε α) : Prop :=
  ∀ tx tx', tx.SameView tx' → m tx' = (m tx).map fun p => (p.1, tx')

namespace Reads

variable {m : TxnOf ε α} {tx tx' t : Tx}

theorem returns_self (hm : Reads m) {a : α} (h : Returns m tx a tx') : tx' = tx := by
  have hs := hm tx tx (.refl tx)
  rw [show m tx = .ok (a, tx') from h] at hs
  simp only [Except.map, Except.ok.injEq, Prod.mk.injEq, true_and] at hs
  exact hs

theorem returns (hm : Reads m) {a : α} (h : Returns m tx a tx') (hv : tx.SameView t) : Returns m t a t := by
  unfold Returns
  rw [hm tx t hv, show m tx = .ok (a, tx') from h]
  rfl

theorem error (hm : Reads m) {e : ε} (h : m tx = .error e) (hv : tx.SameView t) : m t = .error e := by
  rw [hm tx t hv, h]
  rfl

theorem pure (a : α) : Reads (Pure.pure a : TxnOf ε α) := fun _ _ _ => rfl

theorem throw (e : ε) : Reads (fun _ => .error e : TxnOf ε α) := fun _ _ _ => rfl

theorem fail (f : Fault) : Reads (Txn.fail f : Txn α) := throw f

theorem lift (r : Except Fault α) : Reads (Txn.lift r) := by
  intro tx tx' _
  cases r <;> rfl

theorem bind {f : α → TxnOf ε β} (hm : Reads m) (hf : ∀ a, Reads (f a)) : Reads (m >>= f) := by
  intro tx tx' hv
  simp only [Bind.bind, StateT.bind]
  rw [hm tx tx' hv]
  cases hr : m tx with
  | error e => rfl
  | ok p =>
    obtain ⟨a, t⟩ := p
    -- the first read left `tx` as it was, so the rest starts from it
    obtain rfl := returns_self hm hr
    exact hf a t tx' hv

theorem ite {c : Prop} [Decidable c] {a b : TxnOf ε α} (ha : Reads a) (hb : Reads b) :
    Reads (if c then a else b) := by
  split <;> assumption

theorem guard {c : Prop} [Decidable c] {f : Fault} {k : Txn β} (hk : Reads k) :
    Reads (if c then (Txn.fail f : Txn PUnit) >>= (fun _ => k) else k) :=
  ite ((fail f).bind fun _ => hk) hk

theorem mapFault (hm : Reads m) (g : ε → ε') : Reads (Txn.mapFault g m) := by
  intro tx tx' hv
  unfold Txn.mapFault
  rw [hm tx tx' hv]
  cases m tx <;> rfl

end Reads

/-! ## The read primitives -/

theorem reads_checkKey (k : Bytes) : Reads (checkKey k) := by
  unfold checkKey
  exact Reads.ite (Reads.fail _) (Reads.pure _)

theorem Reads.raw_bind (k : Bytes) {g : Option Bytes → Txn β} (hg : ∀ r, Reads (g r)) :
    Reads ((MonadState.get : Txn Tx) >>= fun tx => Txn.lift (tx.raw k) >>= g) := by
  intro tx tx' hv
  show (Txn.lift (tx'.raw k) >>= g) tx' = ((Txn.lift (tx.raw k) >>= g) tx).map _
  rw [hv.raw]
  exact ((Reads.lift _).bind hg) tx tx' hv

theorem reads_rawGet (k : Bytes) : Reads (rawGet k) := by
  unfold rawGet
  refine (reads_checkKey k).bind fun _ => Reads.raw_bind k fun r => ?_
  split
  · exact Reads.ite (Reads.pure _) (Reads.pure _)
  · exact Reads.pure _

theorem reads_read (shape : Rlp.Shape) (k : Bytes) : Reads (read shape k) := by
  unfold read
  refine (reads_rawGet k).bind fun r => ?_
  split
  · exact Reads.pure _
  · split
    · exact Reads.pure _
    · exact Reads.fail _

end Txn

end Issuance.Store
