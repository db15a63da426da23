import Mathlib
import Issuance.Proofs.Engine.Reach
/-! # Runs and what their steps show

A `Label` is what a committed step shows. `Run e ok S ℓs S'` leads from `S`
to `S'` through steps showing `ℓs`, each allowed by `ok`; `Run.clocked`
carries clock invariants along runs whose clock never goes back. -/
namespace Issuance.Engine

open Store

/-- What a committed step shows. -/
inductive Label
  | op (ctx : Context) (o : Op) (r : o.Result × List Event)
  | call (c : BankCall) (r : c.Result)

/-- `S` becomes `S'` in one committed step showing `ℓ`. -/
def Label.Step (e : Engine) (S : Store) : Label → Store → Prop
  | .op ctx o r, S' => ∃ db db' : Database, db.store = S ∧ db'.store = S' ∧ ctx.Typed ∧ o.Typed ∧
      atomic db (o.txn e ctx) = .ok (r, db')
  | .call c r, S' => ∃ db db' : Database, db.store = S ∧ db'.store = S' ∧ c.Typed ∧
      atomic db (Txn.mapFault Bank.Error.toFault c.step) = .ok (r, db')

/-- A run of `e` from `S` to `S'` through committed steps showing `ℓs`, each
allowed by `ok`. -/
inductive Run (e : Engine) (ok : Store → Label → Store → Prop) : Store → List Label → Store → Prop
  | nil (S : Store) : Run e ok S [] S
  | cons {S S₁ S' : Store} {ℓ : Label} {ℓs : List Label} :
      ℓ.Step e S S₁ → ok S ℓ S₁ → Run e ok S₁ ℓs S' → Run e ok S (ℓ :: ℓs) S'

/-- The clock an operation ran at. -/
def Label.clock : Label → Option Int
  | .op ctx _ _ => some ctx.now
  | .call .. => none

/-- The clocks of the operations of a run, in order. -/
def clocks (ℓs : List Label) : List Int := ℓs.filterMap Label.clock

@[simp] theorem clocks_nil : clocks [] = [] := rfl

@[simp] theorem clocks_op (ctx : Context) (o : Op) (r : o.Result × List Event) (ℓs : List Label) :
    clocks (.op ctx o r :: ℓs) = ctx.now :: clocks ℓs := rfl

@[simp] theorem clocks_call (c : BankCall) (r : c.Result) (ℓs : List Label) :
    clocks (.call c r :: ℓs) = clocks ℓs := rfl

theorem clocks_append (ℓs ℓs' : List Label) : clocks (ℓs ++ ℓs') = clocks ℓs ++ clocks ℓs' :=
  List.filterMap_append

section
variable {e : Engine} {ok : Store → Label → Store → Prop} {S S' : Store}

theorem Label.Step.reachable {ℓ : Label} (hS : Reachable e S) (h : ℓ.Step e S S') : Reachable e S' := by
  cases ℓ with
  | op ctx o r =>
    obtain ⟨db, db', hdb, hdb', hctx, ho, hat⟩ := h
    exact hS.tail (.inl ⟨db, db', ctx, o, r, hdb, hdb', hctx, ho, hat⟩)
  | call c r =>
    obtain ⟨db, db', hdb, hdb', hc, hat⟩ := h
    exact hS.tail (.inr ⟨db, db', c, r, hdb, hdb', hc, hat⟩)

theorem Run.reachable {ℓs : List Label} (hS : Reachable e S) (h : Run e ok S ℓs S') : Reachable e S' := by
  induction h with
  | nil => exact hS
  | cons hstep _ _ ih => exact ih (hstep.reachable hS)

theorem Label.Step.op_returns {ctx : Context} {o : Op} {r : o.Result × List Event}
    (h : (Label.op ctx o r).Step e S S') :
    ctx.Typed ∧ o.Typed ∧ ∃ tx tx' : Tx, tx.lookup = S.get? ∧ Txn.Returns (o.txn e ctx) tx r tx' ∧
      S'.get? = tx'.lookup := by
  obtain ⟨db, db', rfl, rfl, hctx, ho, hat⟩ := h
  obtain ⟨tx', hm, hc⟩ := atomic_eq_ok hat
  exact ⟨hctx, ho, _, tx', Tx.lookup_start db, hm, atomic_lookup (Op.stages hm) hc⟩

/-- A bank call ran from the view of the store before it and left the view of
the store after it, writing only the bank's records. -/
theorem Label.Step.call_returns {c : BankCall} {r : c.Result} (h : (Label.call c r).Step e S S') :
    c.Typed ∧ ∃ tx tx' : Tx, tx.lookup = S.get? ∧ Txn.Returns c.step tx r tx' ∧ tx.Stages Bank.IsKey tx' ∧
      S'.get? = tx'.lookup := by
  obtain ⟨db, db', rfl, rfl, hc, hat⟩ := h
  obtain ⟨tx', hm, hcommit⟩ := atomic_eq_ok hat
  have hm := Txn.returns_mapFault.mp hm
  have hs := BankCall.stages hm
  exact ⟨hc, _, tx', Tx.lookup_start db, hm, hs, atomic_lookup (stages_any hs) hcommit⟩

/-- An invariant of views and clocks, monotone in time and kept by every
allowed operation and bank call, holds after every run with monotone clocks. -/
theorem Run.clocked {I : (Bytes → Option Bytes) → Int → Prop} {ℓs : List Label} (h : Run e ok S ℓs S')
    (hS : Reachable e S) (hmono : ∀ L T T', T ≤ T' → I L T → I L T')
    (hop : ∀ S₁ S₂ ctx o r T, Reachable e S₁ → (Label.op ctx o r).Step e S₁ S₂ → ok S₁ (.op ctx o r) S₂ →
      T ≤ ctx.now → I S₁.get? T → I S₂.get? ctx.now)
    (hcall : ∀ S₁ S₂ c r T, (Label.call c r).Step e S₁ S₂ → I S₁.get? T → I S₂.get? T)
    {T : Int} (hI : I S.get? T) (hT : ∀ t ∈ clocks ℓs, T ≤ t) (hsorted : (clocks ℓs).Pairwise (· ≤ ·))
    {T' : Int} (hTT' : T ≤ T') (hT' : ∀ t ∈ clocks ℓs, t ≤ T') : I S'.get? T' := by
  induction h generalizing T with
  | nil => exact hmono _ _ _ hTT' hI
  | @cons S S₁ S' ℓ ℓs hstep hok _ ih =>
    cases ℓ with
    | op ctx o r =>
      -- the operation moves the clock of the invariant up to its own
      simp only [clocks_op, List.mem_cons, forall_eq_or_imp, List.pairwise_cons] at hT hT' hsorted
      exact ih (hstep.reachable hS) (hop S S₁ ctx o r T hS hstep hok hT.1 hI) hsorted.1 hsorted.2 hT'.1 hT'.2
    | call c r =>
      simp only [clocks_call] at hT hT' hsorted
      exact ih (hstep.reachable hS) (hcall S S₁ c r T hstep hI) hT hsorted hTT' hT'

/-- The run lemma for an invariant that the starting store meets at every
time, as the empty store meets every invariant about its records. -/
theorem Run.clocked_of_forall {I : (Bytes → Option Bytes) → Int → Prop} {ℓs : List Label} (h : Run e ok S ℓs S')
    (hS : Reachable e S) (hmono : ∀ L T T', T ≤ T' → I L T → I L T')
    (hop : ∀ S₁ S₂ ctx o r T, Reachable e S₁ → (Label.op ctx o r).Step e S₁ S₂ → ok S₁ (.op ctx o r) S₂ →
      T ≤ ctx.now → I S₁.get? T → I S₂.get? ctx.now)
    (hcall : ∀ S₁ S₂ c r T, (Label.call c r).Step e S₁ S₂ → I S₁.get? T → I S₂.get? T)
    (hI : ∀ T, I S.get? T) (hsorted : (clocks ℓs).Pairwise (· ≤ ·)) {T' : Int} (hT' : ∀ t ∈ clocks ℓs, t ≤ T') :
    I S'.get? T' := by
  -- the invariant is taken at the first clock of the run, or at `T'` if it has none
  cases hcl : clocks ℓs with
  | nil => exact h.clocked hS hmono hop hcall (hI T') (by simp [hcl]) (by simp [hcl]) le_rfl hT'
  | cons t₀ rest =>
    have hfirst : ∀ t ∈ clocks ℓs, t₀ ≤ t := by
      rw [hcl] at hsorted ⊢
      intro t ht
      rcases List.mem_cons.mp ht with rfl | ht
      · exact le_rfl
      · exact List.rel_of_pairwise_cons hsorted ht
    exact h.clocked hS hmono hop hcall (hI t₀) hfirst hsorted (hT' t₀ (by simp [hcl])) hT'

end

end Issuance.Engine
