import Mathlib
import Issuance.Proofs.Engine.Trace
/-! # Scripts of operations

A script lists operations, each at its context, and direct bank calls.
`Script.run` commits them one after another and tests every step; where it
answers, its steps form a `Run` whose steps pass the test (`Script.run_sound`),
so a concrete history is shown to be a run by evaluating its script once.

`Sample` is such a history: settings, a stable unit and a basket asset,
accounts, a mint and a burn channel, then a mint, a burn and a fee
withdrawal. -/
namespace Issuance

instance (s : String) : Decidable (Text.Short s) :=
  inferInstanceAs (Decidable ((Bytes.ofString s).length < 2 ^ 32))

instance (ctx : Context) : Decidable ctx.Typed :=
  decidable_of_iff (ctx.now < 2 ^ 63 ∧ Text.Short ctx.fresh)
    ⟨fun h => ⟨h.1, h.2⟩, fun h => ⟨h.now, h.fresh⟩⟩

instance (l : Limits) : Decidable l.Typed := inferInstanceAs (Decidable (_ ∧ _ ∧ _))

namespace Engine

open Store

instance (o : Op) : Decidable o.Typed :=
  match o with
  | .createAsset id _ _ => inferInstanceAs (Decidable (Text.Short id))
  | .openAccount _ id asset => inferInstanceAs (Decidable (Text.Short id ∧ Text.Short asset))
  | .createMintChannel path capacity => inferInstanceAs (Decidable (Text.Short path ∧ capacity < 2 ^ 16))
  | .setMintChannel _ s =>
    inferInstanceAs (Decidable ((∀ l ∈ s.basket, Text.Short l.asset ∧ Text.Short l.priceFeed) ∧ s.limits.Typed))
  | .createBurnChannel path => inferInstanceAs (Decidable (Text.Short path))
  | .setBurnChannel _ s =>
    inferInstanceAs (Decidable (Text.Short s.outputAsset ∧ Text.Short s.outputFeed ∧ s.limits.Typed))
  | .createAppConfig _ | .setAppConfig _ | .createFeed .. | .submitRound .. | .mint _ | .burn _
  | .withdrawFee .. | .releaseAssetCustody .. => isTrue trivial

instance (c : BankCall) : Decidable c.Typed :=
  match c with
  | .createAsset id decimals _ => inferInstanceAs (Decidable (Text.Short id ∧ decimals < 2 ^ 16))
  | .openAccount id _ asset fresh => inferInstanceAs (Decidable (Text.Short id ∧ Text.Short asset ∧ Text.Short fresh))
  | .transfer .. | .mintTo .. | .burn .. | .setMintAuthority .. => isTrue trivial

/-- An entry of a script: an operation at a context, or a direct bank call. -/
inductive Scripted
  | op (ctx : Context) (o : Op)
  | call (c : BankCall)

namespace Scripted

def Typed : Scripted → Prop
  | .op ctx o => ctx.Typed ∧ o.Typed
  | .call c => c.Typed

instance (s : Scripted) : Decidable s.Typed :=
  match s with
  | .op ctx o => inferInstanceAs (Decidable (ctx.Typed ∧ o.Typed))
  | .call c => inferInstanceAs (Decidable c.Typed)

/-- Commit an entry on a database holding `S`: what the step shows and the
store it leaves, or nothing where it fails. -/
def commit (e : Engine) (S : Store) : Scripted → Option (Label × Store)
  | .op ctx o => match atomic { store := S } (o.txn e ctx) with
    | .ok p => some (.op ctx o p.1, p.2.store)
    | .error _ => none
  | .call c => match atomic { store := S } (Txn.mapFault Bank.Error.toFault c.step) with
    | .ok p => some (.call c p.1, p.2.store)
    | .error _ => none

def clock : Scripted → Option Int
  | .op ctx _ => some ctx.now
  | .call _ => none

def isOp : Scripted → Bool
  | .op .. => true
  | .call _ => false

variable {e : Engine} {S S' : Store} {ℓ : Label}

theorem commit_op {ctx : Context} {o : Op} (h : (Scripted.op ctx o).commit e S = some (ℓ, S')) :
    ∃ r db', atomic { store := S } (o.txn e ctx) = .ok (r, db') ∧ ℓ = .op ctx o r ∧ S' = db'.store := by
  simp only [commit] at h
  split at h
  · cases h
    exact ⟨_, _, ‹_›, rfl, rfl⟩
  · cases h

theorem commit_call {c : BankCall} (h : (Scripted.call c).commit e S = some (ℓ, S')) :
    ∃ r db', atomic { store := S } (Txn.mapFault Bank.Error.toFault c.step) = .ok (r, db') ∧ ℓ = .call c r ∧
      S' = db'.store := by
  simp only [commit] at h
  split at h
  · cases h
    exact ⟨_, _, ‹_›, rfl, rfl⟩
  · cases h

theorem commit_step {s : Scripted} (ht : s.Typed) (h : s.commit e S = some (ℓ, S')) : ℓ.Step e S S' := by
  cases s with
  | op ctx o =>
    obtain ⟨r, db', hat, rfl, rfl⟩ := commit_op h
    exact ⟨_, db', rfl, rfl, ht.1, ht.2, hat⟩
  | call c =>
    obtain ⟨r, db', hat, rfl, rfl⟩ := commit_call h
    exact ⟨_, _, rfl, rfl, ht, hat⟩

theorem clock_commit {s : Scripted} (h : s.commit e S = some (ℓ, S')) : ℓ.clock = s.clock := by
  cases s with
  | op ctx o => obtain ⟨r, db', -, rfl, -⟩ := commit_op h; rfl
  | call c => obtain ⟨r, db', -, rfl, -⟩ := commit_call h; rfl

/-- A step that `isOp` calls an operation is one step of the engine. -/
theorem opStep_commit {s : Scripted} (ht : s.Typed) (hop : s.isOp = true) (h : s.commit e S = some (ℓ, S')) :
    OpStep e S S' := by
  cases s with
  | op ctx o =>
    obtain ⟨r, db', hat, -, rfl⟩ := commit_op h
    exact ⟨_, db', ctx, o, r, rfl, rfl, ht.1, ht.2, hat⟩
  | call c => cases hop

end Scripted

namespace Script

/-- Commit a script's entries in order from `S`, each typed and its step
passing `ok`: the steps shown and the store left, or nothing where an entry
fails. -/
def run (e : Engine) (ok : Store → Label → Store → Bool) : List Scripted → Store → Option (List Label × Store)
  | [], S => some ([], S)
  | s :: ss, S =>
    if s.Typed then
      (s.commit e S).bind fun p =>
        if ok S p.1 p.2 then (run e ok ss p.2).map fun q => (p.1 :: q.1, q.2) else none
    else none

/-- The steps a script shows from `S`, where it runs. -/
def labels (e : Engine) (ss : List Scripted) (S : Store) : List Label :=
  ((run e (fun _ _ _ => true) ss S).map (·.1)).getD []

/-- The store a script leaves from `S`, where it runs. -/
def final (e : Engine) (ss : List Scripted) (S : Store) : Store :=
  ((run e (fun _ _ _ => true) ss S).map (·.2)).getD S

variable {e : Engine} {ok : Store → Label → Store → Bool} {S S' : Store} {ℓs : List Label}

/-- The inversion of a step of `run`. -/
theorem run_cons_eq_some {s : Scripted} {ss : List Scripted} :
    run e ok (s :: ss) S = some (ℓs, S') ↔ ∃ ℓ S₁ ℓs', s.Typed ∧ s.commit e S = some (ℓ, S₁) ∧
      ok S ℓ S₁ = true ∧ run e ok ss S₁ = some (ℓs', S') ∧ ℓs = ℓ :: ℓs' := by
  simp only [run]
  split
  · simp only [Option.bind_eq_some_iff, Prod.exists]
    constructor
    · rintro ⟨ℓ, S₁, hc, h⟩
      split at h
      · obtain ⟨⟨ℓs', S''⟩, hr, h⟩ := Option.map_eq_some_iff.1 h
        cases h
        exact ⟨ℓ, S₁, ℓs', ‹_›, hc, ‹_›, hr, rfl⟩
      · cases h
    · rintro ⟨ℓ, S₁, ℓs', -, hc, hk, hr, rfl⟩
      exact ⟨ℓ, S₁, hc, by simp [hk, hr]⟩
  · simp_all

/-- Where a script runs, its steps form a run whose steps pass `ok`. -/
theorem run_sound {P : Store → Label → Store → Prop} (hok : ∀ S ℓ S', ok S ℓ S' = true → P S ℓ S') :
    ∀ {ss : List Scripted} {S ℓs S'}, run e ok ss S = some (ℓs, S') → Run e P S ℓs S'
  | [], S, ℓs, S', h => by
    simp only [run, Option.some.injEq, Prod.mk.injEq] at h
    obtain ⟨rfl, rfl⟩ := h
    exact .nil _
  | _ :: _, _, _, _, h => by
    obtain ⟨ℓ, S₁, ℓs', ht, hc, hk, hr, rfl⟩ := run_cons_eq_some.1 h
    exact .cons (Scripted.commit_step ht hc) (hok _ _ _ hk) (run_sound hok hr)

/-- What a script runs to does not depend on the test its steps passed. -/
theorem run_true : ∀ {ss : List Scripted} {S ℓs S'},
    run e ok ss S = some (ℓs, S') → run e (fun _ _ _ => true) ss S = some (ℓs, S')
  | [], _, _, _, h => h
  | _ :: _, _, _, _, h => by
    obtain ⟨ℓ, S₁, ℓs', ht, hc, -, hr, rfl⟩ := run_cons_eq_some.1 h
    exact run_cons_eq_some.2 ⟨ℓ, S₁, ℓs', ht, hc, rfl, run_true hr, rfl⟩

theorem of_run {ss : List Scripted} (h : run e ok ss S = some (ℓs, S')) :
    labels e ss S = ℓs ∧ final e ss S = S' := by
  simp [labels, final, run_true h]

theorem run_eq {ss : List Scripted} (h : (run e ok ss S).isSome) :
    run e ok ss S = some (labels e ss S, final e ss S) := by
  obtain ⟨⟨ℓs, S'⟩, hr⟩ := Option.isSome_iff_exists.1 h
  rw [hr, (of_run hr).1, (of_run hr).2]

theorem run_append (ss₁ ss₂ : List Scripted) (S : Store) :
    run e ok (ss₁ ++ ss₂) S =
      (run e ok ss₁ S).bind fun p => (run e ok ss₂ p.2).map fun q => (p.1 ++ q.1, q.2) := by
  induction ss₁ generalizing S with
  | nil => simp [run]
  | cons s ss₁ ih =>
    simp only [List.cons_append, run]
    split
    · cases s.commit e S with
      | none => rfl
      | some p =>
        simp only [Option.bind_some]
        split
        · simp [ih, Option.map_bind, Option.bind_map, Function.comp_def]
        · rfl
    · rfl

/-- Where a script runs, so does each part of it, the second from where the
first left. -/
theorem runs_append {ss₁ ss₂ : List Scripted} (h : (run e ok (ss₁ ++ ss₂) S).isSome) :
    (run e ok ss₁ S).isSome ∧ (run e ok ss₂ (final e ss₁ S)).isSome ∧
      final e (ss₁ ++ ss₂) S = final e ss₂ (final e ss₁ S) ∧
      labels e (ss₁ ++ ss₂) S = labels e ss₁ S ++ labels e ss₂ (final e ss₁ S) := by
  rw [run_append] at h
  cases h₁ : run e ok ss₁ S with
  | none => simp [h₁] at h
  | some p =>
    obtain ⟨ℓs₁, S₁⟩ := p
    rw [h₁, Option.bind_some] at h
    obtain ⟨⟨ℓs₂, S₂⟩, h₂⟩ := Option.isSome_iff_exists.1 (by simpa using h)
    have h₁₂ : run e ok (ss₁ ++ ss₂) S = some (ℓs₁ ++ ℓs₂, S₂) := by simp [run_append, h₁, h₂]
    obtain ⟨hl₁, hf₁⟩ := of_run h₁
    obtain ⟨hl₂, hf₂⟩ := of_run h₂
    obtain ⟨hl, hf⟩ := of_run h₁₂
    rw [hf₁]
    exact ⟨rfl, by simp [h₂], by rw [hf, hf₂], by rw [hl, hl₁, hl₂]⟩

theorem clocks_run : ∀ {ss : List Scripted} {S ℓs S'},
    run e ok ss S = some (ℓs, S') → clocks ℓs = ss.filterMap Scripted.clock
  | [], _, _, _, h => by simp_all [run]
  | s :: _, _, _, _, h => by
    obtain ⟨ℓ, S₁, ℓs', -, hc, -, hr, rfl⟩ := run_cons_eq_some.1 h
    rw [List.filterMap_cons, ← Scripted.clock_commit hc, ← clocks_run hr]
    cases ℓ <;> rfl

theorem length_run : ∀ {ss : List Scripted} {S ℓs S'}, run e ok ss S = some (ℓs, S') → ℓs.length = ss.length
  | [], _, _, _, h => by simp_all [run]
  | _ :: _, _, _, _, h => by
    obtain ⟨ℓ, S₁, ℓs', -, -, -, hr, rfl⟩ := run_cons_eq_some.1 h
    simp [length_run hr]

/-- A script of operations alone leads from `S` to `S'` by steps of the
engine. -/
theorem opSteps_run : ∀ {ss : List Scripted} {S ℓs S'}, (∀ s ∈ ss, s.isOp = true) →
    run e ok ss S = some (ℓs, S') → Relation.ReflTransGen (OpStep e) S S'
  | [], _, _, _, _, h => by
    simp only [run, Option.some.injEq, Prod.mk.injEq] at h
    rw [h.2]
  | _ :: _, _, _, _, hops, h => by
    obtain ⟨ℓ, S₁, ℓs', ht, hc, -, hr, rfl⟩ := run_cons_eq_some.1 h
    exact .head (Scripted.opStep_commit ht (hops _ (.head _)) hc)
      (opSteps_run (fun s hs => hops s (.tail _ hs)) hr)

/-- A store reached from a reachable one by a script that runs is reachable. -/
theorem reachable_final {ss : List Scripted} (hS : Reachable e S) (h : (run e ok ss S).isSome) :
    Reachable e (final e ss S) :=
  (run_sound (P := fun _ _ _ => True) (fun _ _ _ _ => trivial) (run_eq h)).reachable hS

/-- An operation that a script commits from `S` commits on a database holding `S`. -/
theorem op_commits {ctx : Context} {o : Op} (h : (run e ok [.op ctx o] S).isSome) :
    ∃ r db', atomic { store := S } (o.txn e ctx) = .ok (r, db') := by
  obtain ⟨_, S₁, _, -, hc, -⟩ := run_cons_eq_some.1 (run_eq h)
  obtain ⟨r, db', hat, -⟩ := Scripted.commit_op hc
  exact ⟨r, db', hat⟩

theorem run_decide {P : Store → Label → Store → Prop} [∀ S ℓ S', Decidable (P S ℓ S')] {ss : List Scripted}
    (h : (run e (fun S ℓ S' => decide (P S ℓ S')) ss S).isSome) : Run e P S (labels e ss S) (final e ss S) :=
  run_sound (fun _ _ _ => of_decide_eq_true) (run_eq h)

end Script

theorem Run.append {P : Store → Label → Store → Prop} {S S₁ S₂ : Store} {ℓs₁ ℓs₂ : List Label}
    (h₁ : Run e P S ℓs₁ S₁) (h₂ : Run e P S₁ ℓs₂ S₂) : Run e P S (ℓs₁ ++ ℓs₂) S₂ := by
  induction h₁ with
  | nil => exact h₂
  | cons hstep hok _ ih => exact .cons hstep hok (ih h₂)

namespace Sample

def address (b : UInt8) : Address := ⟨List.replicate 19 0 ++ [b], rfl⟩

/-- The stable unit `USDX` at six decimals, administered by address 1. -/
def engine : Engine := ⟨⟨[address 1]⟩, "USDX", 6, 0⟩

def ctxAt (t : Int) : Context := ⟨t, "", true⟩

def basket : ChannelId := ChannelId.derive .mint "basket"

def redeem : ChannelId := ChannelId.derive .burn "redeem"

/-- Settings with custodian 2, the period shortened to 12 hours; assets `USDX`
and `AAA` (authority 4); accounts of user 3 and of the custodian in both;
1000 `AAA` issued to the user; mint channel `basket` (all `AAA`, fee 1%) and
burn channel `redeem` (paying `AAA`), each with period cap 1000. -/
def setup : List Scripted :=
  [.op (ctxAt 1700000000) (.createAppConfig (address 2)),
   .op (ctxAt 1700000000) (.setAppConfig 12),
   .op (ctxAt 1700000000) (.createAsset "USDX" 6 (address 0)),
   .op (ctxAt 1700000000) (.createAsset "AAA" 6 (address 4)),
   .op (ctxAt 1700000000) (.openAccount (address 3) "user-AAA" "AAA"),
   .op (ctxAt 1700000000) (.openAccount (address 2) "custody-AAA" "AAA"),
   .op (ctxAt 1700000000) (.openAccount (address 3) "user-USDX" "USDX"),
   .op (ctxAt 1700000000) (.openAccount (address 2) "custody-USDX" "USDX"),
   .call (.mintTo (address 4) "user-AAA" 1000),
   .op (ctxAt 1700000000) (.createMintChannel "basket" 0),
   .op (ctxAt 1700000000) (.setMintChannel basket ⟨true, [⟨"AAA", 6, 10000, ""⟩], 100, ⟨1000000, 1000, 0⟩⟩),
   .op (ctxAt 1700000000) (.createBurnChannel "redeem"),
   .op (ctxAt 1700000000) (.setBurnChannel redeem ⟨true, "AAA", 6, "", 0, ⟨1000000, 1000, 0⟩⟩)]

def mintRequest : MintRequest := ⟨basket, address 3, 100, [⟨"AAA", "user-AAA", "custody-AAA", ""⟩], "user-USDX"⟩

def burnRequest : BurnRequest := ⟨redeem, address 3, 40, ⟨"user-USDX", "custody-USDX", "custody-AAA", "user-AAA", ""⟩⟩

def minting : Scripted := .op (ctxAt 1700000060) (.mint mintRequest)

def burning : Scripted := .op (ctxAt 1700000120) (.burn burnRequest)

def withdrawing : Scripted := .op (ctxAt 1700000180) (.withdrawFee "custody-AAA" "user-AAA" 1)

def trade : List Scripted := [minting, burning, withdrawing]

def history : List Scripted := setup ++ trade

def opened : Store := Script.final engine setup {}

def minted : Store := Script.final engine [minting] opened

def burned : Store := Script.final engine [minting, burning] opened

def traded : Store := Script.final engine trade opened

theorem history_runs : (Script.run engine (fun _ _ _ => true) history {}).isSome := by decide +kernel

/-- Where the history runs with steps passing `ok`, so does each of its
stages, from where the one before left. -/
theorem stages {ok : Store → Label → Store → Bool} (h : (Script.run engine ok history {}).isSome) :
    (Script.run engine ok setup {}).isSome ∧ (Script.run engine ok trade opened).isSome ∧
      (Script.run engine ok [minting] opened).isSome ∧ (Script.run engine ok [minting, burning] opened).isSome ∧
      (Script.run engine ok [burning] minted).isSome ∧ (Script.run engine ok [withdrawing] burned).isSome ∧
      Script.final engine history {} = traded := by
  obtain ⟨h₁, h₂, hf, -⟩ := Script.runs_append h
  have htrade : trade = [minting, burning] ++ [withdrawing] := rfl
  obtain ⟨h₃, h₄, -⟩ := Script.runs_append (htrade ▸ h₂)
  obtain ⟨h₅, h₆, -⟩ := Script.runs_append (show (Script.run engine ok ([minting] ++ [burning]) opened).isSome from h₃)
  exact ⟨h₁, h₂, h₅, h₃, h₆, h₄, hf⟩

theorem opened_reachable : Reachable engine opened :=
  Script.reachable_final .refl (stages history_runs).1

theorem burned_reachable : Reachable engine burned :=
  Script.reachable_final opened_reachable (stages history_runs).2.2.2.1

theorem traded_reachable : Reachable engine traded :=
  Script.reachable_final opened_reachable (stages history_runs).2.1

/-- The trade is operations alone. -/
theorem trade_opSteps : Relation.ReflTransGen (OpStep engine) opened traded :=
  Script.opSteps_run (by decide) (Script.run_eq (stages history_runs).2.1)

theorem mint_commits :
    ∃ r db', atomic { store := opened } (mint engine (ctxAt 1700000060) mintRequest) = .ok (r, db') :=
  Script.op_commits (stages history_runs).2.2.1

theorem burn_commits :
    ∃ r db', atomic { store := minted } (burn engine (ctxAt 1700000120) burnRequest) = .ok (r, db') :=
  Script.op_commits (stages history_runs).2.2.2.2.1

theorem withdrawal_commits :
    ∃ r db', atomic { store := burned } (withdrawFee "custody-AAA" "user-AAA" 1) = .ok (r, db') :=
  Script.op_commits (stages history_runs).2.2.2.2.2.1

end Sample

end Engine

end Issuance
