import Mathlib
import Issuance.Proofs.Store.Run
/-! # What a step can fail with

`Fails P m`: every failure of `m` satisfies `P`; closed under the monad.
Every store primitive fails only outside every class. -/
namespace Issuance

/-- A failure outside every class: what the library reports for its own
troubles rather than for the request. -/
def Fault.Unclassed (f : Fault) : Prop := f.code = .internal

theorem Fault.unclassed_plain (m : String) : (Fault.plain m).Unclassed := rfl

theorem Fault.Unclassed.within {f : Fault} (h : f.Unclassed) (s : String) : (Fault.within s f).Unclassed := h

/-- Every failure of the computation `r` satisfies `P`. -/
def Raises {α : Type} (P : Fault → Prop) (r : Except Fault α) : Prop := ∀ f, r = .error f → P f

namespace Raises

variable {α β : Type} {P Q : Fault → Prop}

theorem mono {r : Except Fault α} (h : Raises P r) (hPQ : ∀ f, P f → Q f) : Raises Q r :=
  fun f hf => hPQ f (h f hf)

theorem ok (a : α) : Raises P (.ok a) := nofun

theorem pure (a : α) : Raises P (Pure.pure a : Except Fault α) := nofun

theorem error {f : Fault} (h : P f) : Raises P (.error f : Except Fault α) := by
  intro f' hf
  cases hf
  exact h

theorem throw_bind {f : Fault} {g : α → Except Fault β} (h : P f) : Raises P (throw f >>= g) := by
  intro f' hf
  cases hf
  exact h

theorem bind {r : Except Fault α} {g : α → Except Fault β} (hr : Raises P r) (hg : ∀ a, Raises P (g a)) :
    Raises P (r >>= g) := by
  intro f hf
  cases r with
  | error f' =>
    cases hf
    exact hr _ rfl
  | ok a => exact hg a f hf

theorem mapM {g : α → Except Fault β} : ∀ {as : List α}, (∀ a ∈ as, Raises P (g a)) → Raises P (as.mapM g)
  | [], _ => pure []
  | a :: as, h => by
    rw [List.mapM_cons]
    exact bind (h a (List.mem_cons_self ..)) fun b =>
      bind (mapM fun a' ha' => h a' (List.mem_cons_of_mem _ ha')) fun bs => pure _

theorem foldlM {g : β → α → Except Fault β} (hg : ∀ b a, Raises P (g b a)) :
    ∀ (as : List α) (b : β), Raises P (as.foldlM g b)
  | [], b => pure b
  | a :: as, b => by
    rw [List.foldlM_cons]
    exact bind (hg b a) fun b' => foldlM hg as b'

end Raises

namespace Store

theorem Database.read_error {db : Database} {k : Bytes} {f : Fault} (h : db.read k = .error f) : f.Unclassed := by
  unfold Database.read Database.closedFault at h
  split at h
  · cases h
    exact Fault.unclassed_plain _
  · split at h
    · rename_i f' hc
      split at hc <;> cases hc
      cases h
      exact Fault.unclassed_plain _
    · cases h

theorem Database.list_error {db : Database} {p : Bytes} {f : Fault} (h : db.list p = .error f) : f.Unclassed := by
  unfold Database.list Database.closedFault at h
  split at h
  · cases h
    exact Fault.unclassed_plain _
  · split at h
    · rename_i f' hc
      split at hc <;> cases hc
      cases h
      exact Fault.unclassed_plain _
    · cases h

theorem Database.write_error {db : Database} {ws : List Store.Write} {f : Fault} (h : db.write ws = .error f) :
    f.Unclassed := by
  unfold Database.write Database.closedFault at h
  split at h
  · cases h
    exact Fault.unclassed_plain _
  · split at h
    · rename_i f' hc
      split at hc <;> cases hc
      cases h
      exact Fault.unclassed_plain _
    · cases h

theorem Tx.raw_error {tx : Tx} {k : Bytes} {f : Fault} (h : tx.raw k = .error f) : f.Unclassed := by
  unfold Tx.raw at h
  split at h
  · cases h
  · exact Database.read_error h

theorem Tx.commit_error {tx : Tx} {f : Fault} (h : tx.commit = .error f) : f.Unclassed := by
  unfold Tx.commit at h
  split at h
  · cases h
  · split at h
    · cases h
    · rename_i f' hw
      cases h
      exact (Database.write_error hw).within _

namespace Txn

variable {ε ε' α β : Type}

/-- Every failure of `m` satisfies `P`. -/
def Fails (P : ε → Prop) (m : TxnOf ε α) : Prop := ∀ tx e, m tx = .error e → P e

namespace Fails

variable {P Q : ε → Prop}

theorem mono {m : TxnOf ε α} (h : Fails P m) (hPQ : ∀ e, P e → Q e) : Fails Q m :=
  fun tx e he => hPQ e (h tx e he)

theorem pure (a : α) : Fails P (Pure.pure a : TxnOf ε α) := by
  intro tx e he
  cases he

theorem error {e : ε} (h : P e) : Fails P (fun _ => .error e : TxnOf ε α) := by
  intro tx e' he
  cases he
  exact h

theorem get : Fails P (MonadState.get : TxnOf ε Tx) := by
  intro tx e he
  cases he

theorem set (tx : Tx) : Fails P (MonadState.set tx : TxnOf ε PUnit) := by
  intro tx' e he
  cases he

theorem bind {m : TxnOf ε α} {f : α → TxnOf ε β} (hm : Fails P m) (hf : ∀ a, Fails P (f a)) :
    Fails P (m >>= f) := by
  intro tx e he
  simp only [Bind.bind, StateT.bind] at he
  cases hr : m tx with
  | error e' =>
    rw [hr] at he
    cases he
    exact hm tx _ hr
  | ok p =>
    rw [hr] at he
    exact hf p.1 p.2 e he

theorem guard {c : Prop} [Decidable c] {e : ε} {k : PUnit → TxnOf ε β} {m : TxnOf ε β} (he : P e)
    (hm : Fails P m) : Fails P (if c then (fun _ => .error e : TxnOf ε PUnit) >>= k else m) := by
  split
  · intro tx e' h
    cases h
    exact he
  · exact hm

theorem lift {r : Except Fault α} {P : Fault → Prop} (h : Raises P r) : Fails P (lift r) := by
  intro tx e he
  cases r with
  | error f =>
    cases he
    exact h _ rfl
  | ok a => cases he

theorem mapFault {g : ε → ε'} {Q : ε' → Prop} {m : TxnOf ε α} (hm : Fails P m) (hg : ∀ e, P e → Q (g e)) :
    Fails Q (mapFault g m) := by
  intro tx e he
  unfold Txn.mapFault at he
  split at he
  · cases he
  · rename_i e' hr
    cases he
    exact hg e' (hm tx e' hr)

theorem attempt {m : Txn α} {P : Fault → Prop} : Fails P (attempt m) := by
  intro tx e he
  unfold Txn.attempt at he
  split at he <;> cases he

theorem mapM {f : α → TxnOf ε β} : ∀ {as : List α}, (∀ a ∈ as, Fails P (f a)) → Fails P (as.mapM f)
  | [], _ => pure []
  | a :: as, h => by
    rw [List.mapM_cons]
    exact bind (h a (List.mem_cons_self ..)) fun b =>
      bind (mapM fun a' ha' => h a' (List.mem_cons_of_mem _ ha')) fun bs => pure _

end Fails

/-! ## The primitives of the store -/

theorem fails_fail {f : Fault} {P : Fault → Prop} (h : P f) : Fails P (fail f : Txn α) := Fails.error h

theorem fails_checkKey (k : Bytes) : Fails Fault.Unclassed (checkKey k) := by
  unfold checkKey
  split
  · exact fails_fail (Fault.unclassed_plain _)
  · exact Fails.pure _

theorem fails_rawGet (k : Bytes) : Fails Fault.Unclassed (rawGet k) := by
  unfold rawGet
  refine Fails.bind (fails_checkKey k) fun _ => Fails.bind Fails.get fun tx => ?_
  refine Fails.bind (Fails.lift fun f hf => Tx.raw_error hf) fun r => ?_
  split
  · split <;> exact Fails.pure _
  · exact Fails.pure _

theorem fails_has (k : Bytes) : Fails Fault.Unclassed (has k) :=
  Fails.bind (fails_rawGet k) fun _ => Fails.pure _

theorem fails_read (shape : Rlp.Shape) (k : Bytes) : Fails Fault.Unclassed (read shape k) := by
  unfold read
  refine Fails.bind (fails_rawGet k) fun r => ?_
  split
  · exact Fails.pure _
  · split
    · exact Fails.pure _
    · exact fails_fail (Fault.unclassed_plain _)

theorem fails_stage (k : Bytes) (v : Option Bytes) : Fails Fault.Unclassed (stage k v) := by
  unfold stage
  refine Fails.bind Fails.get fun tx => ?_
  split
  · exact fails_fail (Fault.unclassed_plain _)
  · exact Fails.set _

theorem fails_write (k : Bytes) (v : Rlp.Value) : Fails Fault.Unclassed (write k v) :=
  Fails.bind (fails_checkKey k) fun _ => fails_stage k _

theorem fails_readList (k : Bytes) : Fails Fault.Unclassed (readList k) := by
  unfold readList
  refine Fails.bind (fails_read _ k) fun r => ?_
  split <;> exact Fails.pure _

theorem fails_append (k v : Bytes) : Fails Fault.Unclassed (append k v) := by
  unfold append
  refine Fails.bind (fails_checkKey k) fun _ => Fails.bind (fails_readList k) fun xs => ?_
  split
  · exact Fails.pure _
  · exact fails_stage k _

theorem fails_keys (p : Bytes) : Fails Fault.Unclassed (keys p) :=
  Fails.bind Fails.get fun tx => Fails.bind (Fails.lift fun _ hf => Database.list_error hf) fun _ => Fails.pure _

end Txn

theorem atomic_error {α : Type} {db : Database} {m : Txn α} {f : Fault} (h : atomic db m = .error f) :
    m { db := db } = .error f ∨ f.Unclassed := by
  unfold atomic at h
  cases hm : m { db := db } with
  | error f' =>
    rw [hm] at h
    cases h
    exact .inl rfl
  | ok p =>
    rw [hm] at h
    simp only [bind, Except.bind] at h
    cases hc : p.2.commit with
    | error f' =>
      rw [hc] at h
      cases h
      exact .inr (Tx.commit_error hc)
    | ok d =>
      rw [hc] at h
      cases h

theorem view_error {α : Type} {db : Database} {m : Txn α} {f : Fault} (h : view db m = .error f) :
    m { db := db, readOnly := true } = .error f := by
  unfold view at h
  cases hm : m { db := db, readOnly := true } with
  | error f' =>
    rw [hm] at h
    cases h
    rfl
  | ok p =>
    rw [hm] at h
    cases h

end Store

end Issuance
