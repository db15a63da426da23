import Mathlib
import Issuance.Proofs.Engine.Steps
/-! # Runs of the engine and the bank

A store is reachable when committed operations and direct bank calls lead to
it from the empty store, with arguments typed as requests carry them. -/
namespace Issuance

open Store Channel

/-- A context whose clock is a signed 64-bit time and whose fresh
identifier is short. -/
structure Context.Typed (ctx : Context) : Prop where
  now : ctx.now < 2 ^ 63
  fresh : Text.Short ctx.fresh

/-- Caps and a least request within the stored width of amounts. -/
def Limits.Typed (l : Limits) : Prop :=
  l.lifetimeCap < Amount.bound ∧ l.periodCap < Amount.bound ∧ l.minRequestAmount < Amount.bound

namespace Engine

/-- An operation of the engine with its arguments. -/
inductive Op
  | createAppConfig (signer : Address)
  | setAppConfig (hours : Nat)
  | createAsset (id : String) (decimals : Nat) (authority : Address)
  | createFeed (id description : String) (decimals : Nat)
  | submitRound (id : String) (answer : Int)
  | openAccount (owner : Address) (id asset : String)
  | createMintChannel (path : String) (capacity : Nat)
  | setMintChannel (id : ChannelId) (s : MintSettings)
  | createBurnChannel (path : String)
  | setBurnChannel (id : ChannelId) (s : BurnSettings)
  | mint (req : MintRequest)
  | burn (req : BurnRequest)
  | withdrawFee (source destination : String) (amount : Nat)
  | releaseAssetCustody (asset : String) (next : Address)

/-- What an operation returns besides its events. -/
def Op.Result : Op → Type
  | .createAppConfig _ | .setAppConfig _ => AppConfig
  | .createAsset .. => Asset
  | .createFeed .. => PriceFeed
  | .submitRound .. => Round
  | .openAccount .. => Account
  | .createMintChannel .. | .setMintChannel .. => MintChannel
  | .createBurnChannel _ | .setBurnChannel .. => BurnChannel
  | .mint _ => MintReceipt
  | .burn _ => BurnReceipt
  | .withdrawFee .. => Withdrawal
  | .releaseAssetCustody .. => Unit

/-- The transaction of an operation on engine `e` at context `ctx`. -/
def Op.txn (e : Engine) (ctx : Context) : (o : Op) → Txn (o.Result × List Event)
  | .createAppConfig signer => Engine.createAppConfig signer
  | .setAppConfig hours => Engine.setAppConfig hours
  | .createAsset id decimals authority => Engine.createAsset id decimals authority
  | .createFeed id description decimals => Engine.createFeed id description decimals
  | .submitRound id answer => Engine.submitRound ctx.now id answer
  | .openAccount owner id asset => Engine.openAccount ctx owner id asset
  | .createMintChannel path capacity => Engine.createMintChannel path capacity
  | .setMintChannel id s => Engine.setMintChannel ctx.now id s
  | .createBurnChannel path => Engine.createBurnChannel path
  | .setBurnChannel id s => Engine.setBurnChannel ctx.now id s
  | .mint req => Engine.mint e ctx req
  | .burn req => Engine.burn e ctx req
  | .withdrawFee source destination amount => Engine.withdrawFee source destination amount
  | .releaseAssetCustody asset next => Engine.releaseAssetCustody asset next

/-- The arguments of an operation as a request carries them. -/
def Op.Typed : Op → Prop
  | .createAsset id _ _ => Text.Short id
  | .openAccount _ id asset => Text.Short id ∧ Text.Short asset
  | .createMintChannel path capacity => Text.Short path ∧ capacity < 2 ^ 16
  | .setMintChannel _ s => (∀ l ∈ s.basket, Text.Short l.asset ∧ Text.Short l.priceFeed) ∧ s.limits.Typed
  | .createBurnChannel path => Text.Short path
  | .setBurnChannel _ s => Text.Short s.outputAsset ∧ Text.Short s.outputFeed ∧ s.limits.Typed
  | _ => True

/-- A call of the bank made directly. -/
inductive BankCall
  | createAsset (id : String) (decimals : Nat) (authority : Address)
  | openAccount (id : String) (owner : Address) (asset fresh : String)
  | transfer (authority : Address) (source target : String) (amount : Nat)
  | mintTo (authority : Address) (target : String) (amount : Nat)
  | burn (authority : Address) (source : String) (amount : Nat)
  | setMintAuthority (current : Address) (asset : String) (next : Address)

/-- What a bank call returns. -/
def BankCall.Result : BankCall → Type
  | .createAsset .. => Asset
  | .openAccount .. => Account
  | _ => Unit

/-- The bank step of a call. -/
def BankCall.step : (c : BankCall) → Bank.Step c.Result
  | .createAsset id decimals authority => Bank.createAsset id decimals authority
  | .openAccount id owner asset fresh => Bank.openAccount id owner asset fresh
  | .transfer authority source target amount => Bank.transfer authority source target amount
  | .mintTo authority target amount => Bank.mintTo authority target amount
  | .burn authority source amount => Bank.burn authority source amount
  | .setMintAuthority current asset next => Bank.setMintAuthority current asset next

/-- The arguments of a call as a request carries them. -/
def BankCall.Typed : BankCall → Prop
  | .createAsset id decimals _ => Text.Short id ∧ decimals < 2 ^ 16
  | .openAccount id _ asset fresh => Text.Short id ∧ Text.Short asset ∧ Text.Short fresh
  | _ => True

/-- One operation committed on a database holding `S`, leaving `S'`. -/
def OpStep (e : Engine) (S S' : Store) : Prop :=
  ∃ (db db' : Database) (ctx : Context) (o : Op) (r : o.Result × List Event),
    db.store = S ∧ db'.store = S' ∧ ctx.Typed ∧ o.Typed ∧ atomic db (o.txn e ctx) = .ok (r, db')

/-- One bank call committed on a database holding `S`, leaving `S'`. -/
def CallStep (S S' : Store) : Prop :=
  ∃ (db db' : Database) (c : BankCall) (r : c.Result),
    db.store = S ∧ db'.store = S' ∧ c.Typed ∧ atomic db (Txn.mapFault Bank.Error.toFault c.step) = .ok (r, db')

/-- The stores a run of operations of `e` and bank calls reaches from the
empty store. -/
def Reachable (e : Engine) (S : Store) : Prop :=
  Relation.ReflTransGen (fun S S' => OpStep e S S' ∨ CallStep S S') {} S

/-! ## What a run commits -/

section
variable {e : Engine} {ctx : Context} {tx tx' : Tx}

theorem stages_any {P : Bytes → Prop} (h : tx.Stages P tx') : tx.Stages (fun _ => True) tx' :=
  h.mono fun _ _ => trivial

theorem Op.stages {o : Op} {r : o.Result × List Event} (h : Txn.Returns (o.txn e ctx) tx r tx') :
    tx.Stages (fun _ => True) tx' := by
  cases o with
  | createAppConfig signer =>
    obtain ⟨-, rfl⟩ := createAppConfig_returns h
    exact .restaged trivial _
  | setAppConfig hours =>
    obtain ⟨c, -, rfl⟩ := setAppConfig_returns h
    exact .restaged trivial _
  | createAsset id decimals authority =>
    obtain ⟨signer, -, h1⟩ := createAsset_returns h
    exact stages_any (Bank.createAsset_stages h1)
  | createFeed id description decimals =>
    obtain ⟨b, rfl⟩ := createFeed_returns h
    exact .restaged trivial _
  | submitRound id answer =>
    obtain ⟨i, b, rfl⟩ := submitRound_returns h
    exact .restaged trivial _
  | openAccount owner id asset => exact stages_any (Bank.openAccount_stages (openAccount_returns h))
  | createMintChannel path capacity =>
    obtain ⟨cfg, p, -, -, -, h1, -⟩ := createMintChannel_returns h
    exact stages_any (putMintChannel_stages h1)
  | setMintChannel id s =>
    obtain ⟨cfg, c, basket, -, -, -, -, -, h1⟩ := setMintChannel_returns h
    exact stages_any (putMintChannel_stages h1)
  | createBurnChannel path =>
    obtain ⟨cfg, p, -, -, -, h1, -⟩ := createBurnChannel_returns h
    exact stages_any (putBurnChannel_stages h1)
  | setBurnChannel id s =>
    obtain ⟨cfg, c, -, -, -, -, h1⟩ := setBurnChannel_returns h
    exact stages_any (putBurnChannel_stages h1)
  | mint req =>
    obtain ⟨cfg, c, rcp, fee, payout, counters, reset, legs, t1, t2, -, -, -, -, -, -, -, -, -, h1, -, h2, h3, -⟩ :=
      mint_returns h
    exact (stages_any (transferLegs_stages h1)).trans
      ((stages_any (Bank.mintTo_stages h2)).trans (stages_any (putMintChannel_stages h3)))
  | burn req =>
    obtain ⟨cfg, c, cust, cost, fee, payout, counters, reset, price, t1, t2, t3, -, -, -, -, -, -, -, -, h1, h2, -, h3,
      h4, -⟩ :=
      burn_returns h
    exact (stages_any (Bank.transfer_stages h1)).trans ((stages_any (Bank.burn_stages h2)).trans
      ((stages_any (Bank.transfer_stages h3)).trans (stages_any (putBurnChannel_stages h4))))
  | withdrawFee source destination amount =>
    obtain ⟨signer, src, h1⟩ := withdrawFee_returns h
    exact stages_any (Bank.transfer_stages h1)
  | releaseAssetCustody asset next =>
    obtain ⟨signer, h1⟩ := releaseAssetCustody_returns h
    exact stages_any (Bank.setMintAuthority_stages h1)

theorem BankCall.stages {c : BankCall} {r : c.Result} (h : Txn.Returns c.step tx r tx') : tx.Stages Bank.IsKey tx' := by
  cases c with
  | createAsset id decimals authority => exact Bank.createAsset_stages h
  | openAccount id owner asset fresh => exact Bank.openAccount_stages h
  | transfer authority source target amount =>
    exact (Bank.transfer_stages h).mono fun _ ⟨j, hj⟩ => .inr ⟨j, hj⟩
  | mintTo authority target amount => exact Bank.mintTo_stages h
  | burn authority source amount => exact Bank.burn_stages h
  | setMintAuthority current asset next => exact Bank.setMintAuthority_stages h

theorem atomic_eq_ok {α : Type} {m : Txn α} {db db' : Database} {r : α} (h : atomic db m = .ok (r, db')) :
    ∃ tx', Txn.Returns m { db := db } r tx' ∧ tx'.commit = .ok db' := by
  unfold atomic at h
  cases hm : m { db := db } with
  | error f =>
    rw [hm] at h
    cases h
  | ok p =>
    obtain ⟨a, tx'⟩ := p
    rw [hm] at h
    simp only [bind, Except.bind] at h
    cases hc : tx'.commit with
    | error f =>
      rw [hc] at h
      cases h
    | ok d =>
      rw [hc] at h
      cases h
      exact ⟨tx', hm, hc⟩

theorem atomic_lookup {db db' : Database} {tx' : Tx} (hs : Tx.Stages (fun _ => True) { db := db } tx')
    (hc : tx'.commit = .ok db') : db'.store.get? = tx'.lookup := by
  obtain ⟨-, hro, hn⟩ := hs.frame
  funext k
  exact Tx.commit_lookup (hn List.nodup_nil) hro hc k

/-- An operation that committed on a database holding `S` ran from the view
of `S` and left the view of `S'`. -/
theorem OpStep.returns {S S' : Store} (h : OpStep e S S') :
    ∃ (ctx : Context) (o : Op) (r : o.Result × List Event) (tx tx' : Tx), ctx.Typed ∧ o.Typed ∧
      tx.lookup = S.get? ∧ Txn.Returns (o.txn e ctx) tx r tx' ∧ S'.get? = tx'.lookup := by
  obtain ⟨db, db', ctx, o, r, rfl, rfl, hctx, ho, hat⟩ := h
  obtain ⟨tx', hm, hc⟩ := atomic_eq_ok hat
  exact ⟨ctx, o, r, _, tx', hctx, ho, Tx.lookup_start db, hm, atomic_lookup (Op.stages hm) hc⟩

theorem CallStep.returns {S S' : Store} (h : CallStep S S') :
    ∃ (c : BankCall) (r : c.Result) (tx tx' : Tx), c.Typed ∧
      tx.lookup = S.get? ∧ Txn.Returns c.step tx r tx' ∧ S'.get? = tx'.lookup := by
  obtain ⟨db, db', c, r, rfl, rfl, hc, hat⟩ := h
  obtain ⟨tx', hm, hcommit⟩ := atomic_eq_ok hat
  have hm := Txn.returns_mapFault.mp hm
  exact ⟨c, r, _, tx', hc, Tx.lookup_start db, hm, atomic_lookup (stages_any (BankCall.stages hm)) hcommit⟩

/-- A property of views that holds of the empty store and that every
operation and every bank call keeps holds of every reachable store. -/
theorem Reachable.views {I : (Bytes → Option Bytes) → Prop} {S : Store} (h : Reachable e S)
    (hempty : I ({} : Store).get?)
    (hop : ∀ (ctx : Context) (o : Op) (r : o.Result × List Event) (tx tx' : Tx), ctx.Typed → o.Typed →
      I tx.lookup → Txn.Returns (o.txn e ctx) tx r tx' → I tx'.lookup)
    (hcall : ∀ (c : BankCall) (r : c.Result) (tx tx' : Tx), c.Typed →
      I tx.lookup → Txn.Returns c.step tx r tx' → I tx'.lookup) : I S.get? := by
  induction h with
  | refl => exact hempty
  | tail _ hstep ih =>
    rcases hstep with hstep | hstep
    · obtain ⟨ctx, o, r, tx, tx', hctx, ho, hl, hm, hl'⟩ := hstep.returns
      rw [hl']
      exact hop ctx o r tx tx' hctx ho (hl ▸ ih) hm
    · obtain ⟨c, r, tx, tx', hc, hl, hm, hl'⟩ := hstep.returns
      rw [hl']
      exact hcall c r tx tx' hc (hl ▸ ih) hm

end

end Engine

end Issuance
