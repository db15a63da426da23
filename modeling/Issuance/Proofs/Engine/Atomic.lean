import Mathlib
import Issuance.Proofs.Engine.Reach
import Issuance.Api.Session.Basic
/-! # Operations commit whole or not at all

A failed change leaves the session as it was; a successful one commits what
its transaction saw and reports its events in order. -/
namespace Issuance.Api

open Store Engine

/-- A change that only stages writes commits them all and reports its events,
or commits nothing and reports nothing. -/
theorem Session.commit_of_stages {α : Type} (s : Session) (m : Txn (α × List Event)) (view : α → Json)
    (hm : ∀ r tx, Txn.Returns m { db := s.db } r tx → Tx.Stages (fun _ => True) { db := s.db } tx) :
    (∀ f, m { db := s.db } = .error f → s.commit m view = (s, .failed f)) ∧
    ∀ a evs tx, m { db := s.db } = .ok ((a, evs), tx) →
      (∀ f, tx.commit = .error f → s.commit m view = (s, .failed f)) ∧
      ∀ db, tx.commit = .ok db →
        s.commit m view = ({ s with db := db }, .done (view a) (if s.emitting then evs else [])) ∧
          db.store.get? = tx.lookup := by
  refine ⟨fun f h => by simp [Session.commit, runAtomic, atomic, h, bind, Except.bind], fun a evs tx h => ?_⟩
  refine ⟨fun f hc => by simp [Session.commit, runAtomic, atomic, h, hc, bind, Except.bind], fun db hc => ?_⟩
  refine ⟨by simp [Session.commit, runAtomic, atomic, h, hc, bind, Except.bind, pure, Except.pure], ?_⟩
  exact atomic_lookup (hm _ _ h) hc

/-- An operation either fails, leaving the session as it was and silent, or
commits exactly what its transaction saw and reports its events in order. -/
theorem Session.commit_op_all_or_nothing (s : Session) (e : Engine) (ctx : Context) (o : Op)
    (view : o.Result → Json) :
    (∀ f, o.txn e ctx { db := s.db } = .error f → s.commit (o.txn e ctx) view = (s, .failed f)) ∧
    ∀ a evs tx, o.txn e ctx { db := s.db } = .ok ((a, evs), tx) →
      (∀ f, tx.commit = .error f → s.commit (o.txn e ctx) view = (s, .failed f)) ∧
      ∀ db, tx.commit = .ok db →
        s.commit (o.txn e ctx) view = ({ s with db := db }, .done (view a) (if s.emitting then evs else [])) ∧
          db.store.get? = tx.lookup :=
  s.commit_of_stages (o.txn e ctx) view fun _ _ h => Op.stages h

end Issuance.Api
