import Mathlib
import Issuance.Proofs.Api.Bootstrap
import Issuance.Proofs.Engine.Script
/-! # Fee withdrawals

Over a reachable store a fee withdrawal commits exactly when the amount is
positive, the settings exist, both accounts are named and found, the source
belongs to the custodial signer, the destination holds the source's asset
and the source holds the amount. It then moves the amount between the two
accounts and writes nothing else: the channels' fee counters stay as they
were. -/
namespace Issuance

open Store Txn Bank Channel Engine

theorem Text.trim_eq_empty_of_isBlankText {s : String} (h : Text.isBlankText s = true) : Text.trim s = "" := by
  have hd : s.toList.dropWhile Text.isBlank = [] := by
    simp only [Text.isBlankText, List.all_eq_true] at h
    exact List.dropWhile_eq_nil_iff.mpr h
  rw [Text.trim, Text.trimChars_eq, hd]
  rfl

section
variable {tx tx' : Tx}

theorem Bank.account_named {id : String} {a : Account} (h : Returns (Bank.account id) tx a tx') :
    Text.trim id ≠ "" := by
  unfold Bank.account at h
  obtain ⟨hid, -⟩ := Returns.guard h
  simpa using hid

theorem requireAccount_named {role id asset : String} {owner : Option Address} {a : Account}
    (h : Returns (requireAccount role id asset owner) tx a tx') : Text.trim id ≠ "" := by
  unfold requireAccount at h
  obtain ⟨-, h1⟩ := Returns.guard h
  obtain ⟨x, t1, hx, -⟩ := Returns.bind h1
  exact Bank.account_named (bankStep_returns.mp hx)

theorem requireAccount_eq {role id asset : String} {a : Account} (hraw : ∀ k, tx.raw k = .ok (tx.lookup k))
    (hid : Text.trim id ≠ "") (h : accountIn tx.lookup (Text.trim id) = some a) (ha : a.asset = asset) :
    requireAccount role id asset none tx = .ok (a, tx) := by
  have hb : Text.isBlankText id = false := by
    cases hb : Text.isBlankText id
    · rfl
    · exact absurd (Text.trim_eq_empty_of_isBlankText hb) hid
  unfold requireAccount
  simp [hb, bankStep, Txn.mapFault, Bank.account_eq hraw hid h, ha, bind, StateT.bind, Except.bind, pure,
    StateT.pure, Except.pure]

/-- A transfer between two named accounts of one asset, from an account of
`auth` that holds the amount, goes through over a sound view. -/
theorem Bank.transfer_runs {auth : Address} {source target : String} {amount : Nat} {s d : Account}
    (hraw : ∀ k, tx.raw k = .ok (tx.lookup k)) (hw : tx.readOnly = false) (hs : Bank.Sound tx.lookup)
    (hsn : Text.trim source ≠ "") (htn : Text.trim target ≠ "") (hx : accountIn tx.lookup (Text.trim source) = some s)
    (hy : accountIn tx.lookup (Text.trim target) = some d) (ho : s.owner = auth) (ha : s.asset = d.asset)
    (hle : amount ≤ s.balance) : ∃ tx', Bank.transfer auth source target amount tx = .ok ((), tx') := by
  unfold Bank.transfer
  by_cases hz : s.id = d.id ∨ amount = 0
  · simp [bind, StateT.bind, Except.bind, Bank.account_eq hraw hsn hx, Bank.account_eq hraw htn hy, ho, ha,
      Nat.not_lt.mpr hle, hz, pure, StateT.pure, Except.pure]
  · have hid : s.id ≠ d.id := fun h => hz (.inl h)
    have hg := hs.transfer_guard hx hy hid ha hle
    have hk : ∀ j, accountKey j ≠ [] := fun j => by simp [accountKey, accountPrefix_eq]
    simp [hk, bind, StateT.bind, Except.bind, Bank.account_eq hraw hsn hx, Bank.account_eq hraw htn hy, ho, ha,
      Nat.not_lt.mpr hle, hz, Nat.not_le.mpr hg, putAccount, io, Txn.mapFault, Txn.write_eq, Txn.stage_eq, hw]

end

/-- What a withdrawal of `x` from `source` to `destination` needs in the view
`L`: the settings `cfg` and the two accounts `src` and `dst` it finds. -/
structure Withdrawable (L : Bytes → Option Bytes) (source destination : String) (x : Nat) (cfg : AppConfig)
    (src dst : Account) : Prop where
  pos : 0 < x
  settings : appConfigIn L = some cfg
  sourceNamed : Text.trim source ≠ ""
  source : accountIn L (Text.trim source) = some src
  custodial : src.owner = cfg.custodialSigner
  destinationNamed : Text.trim destination ≠ ""
  destination : accountIn L (Text.trim destination) = some dst
  sameAsset : dst.asset = src.asset
  funds : x ≤ src.balance

/-- `L'` is `L` with `x` moved from account `src` to account `dst`, and
nothing else changed; a move within one account changes nothing. -/
def Moved (L L' : Bytes → Option Bytes) (src dst : Account) (x : Nat) : Prop :=
  (src.id = dst.id → L' = L) ∧
    (src.id ≠ dst.id → accountIn L' src.id = some { src with balance := src.balance - x } ∧
      accountIn L' dst.id = some { dst with balance := dst.balance + x } ∧
      ∀ k, k ≠ accountKey src.id → k ≠ accountKey dst.id → L' k = L k)

section
variable {tx tx' : Tx} {source destination : String} {x : Nat}

theorem withdrawFee_moves {r : Withdrawal × List Event} (hs : Bank.Sound tx.lookup)
    (h : Returns (withdrawFee source destination x) tx r tx') :
    ∃ cfg src dst, Withdrawable tx.lookup source destination x cfg src dst ∧ Moved tx.lookup tx'.lookup src dst x := by
  unfold withdrawFee at h
  obtain ⟨hx, h1⟩ := Returns.guard h
  obtain ⟨cfg, t1, hl, h2⟩ := Returns.bind h1
  obtain ⟨rfl, hcfg⟩ := requireAppConfig_returns hl
  obtain ⟨src, t2, hl, h3⟩ := Returns.bind h2
  have hsn := Bank.account_named (bankStep_returns.mp hl)
  obtain ⟨rfl, hsrc⟩ := account_returns (bankStep_returns.mp hl)
  obtain ⟨hown, h4⟩ := Returns.guard h3
  obtain ⟨dst, t3, hl, h5⟩ := Returns.bind h4
  have hdn := requireAccount_named hl
  obtain ⟨rfl, hdst, hasset, -⟩ := requireAccount_returns hl
  obtain ⟨t4, ht, h6⟩ := Returns.seq h5
  obtain ⟨-, rfl⟩ := Returns.pure h6
  -- the transfer finds the same two accounts, the source under its own name, trimmed already
  have hid : Text.trim src.id = Text.trim source := by rw [(hs.account _ _ hsrc).1, Text.trim_trim]
  obtain ⟨s, d, hs', hd', -, -, hle, hmove⟩ := transfer_returns (bankStep_returns.mp ht)
  rw [hid, hsrc, Option.some.injEq] at hs'
  rw [hdst, Option.some.injEq] at hd'
  subst hs' hd'
  refine ⟨cfg, src, dst, ⟨by omega, hcfg, hsn, hsrc, by simpa using hown, hdn, hdst, hasset, hle⟩, ?_⟩
  rcases hmove with ⟨hz, rfl⟩ | ⟨hne, -, hg, rfl⟩
  · exact ⟨fun _ => rfl, fun hne => absurd (hz.resolve_left hne) (by omega)⟩
  · have hsrc' := (hs.account _ _ hsrc).2.1.debit x
    have hdst' := (hs.account _ _ hdst).2.1.withBalance hg
    refine ⟨fun h => absurd h hne, fun _ => ⟨?_, ?_, fun k h1 h2 => by simp [h1, h2]⟩⟩
    · rw [accountIn_restaged_account hdst', if_neg hne, accountIn_restaged_account hsrc', if_pos rfl]
    · rw [accountIn_restaged_account hdst', if_pos rfl]

/-- A withdrawal that has everything it needs goes through over a sound view
of a store that answers every call. -/
theorem withdrawFee_runs {cfg : AppConfig} {src dst : Account} (hraw : ∀ k, tx.raw k = .ok (tx.lookup k))
    (hw : tx.readOnly = false) (hs : Bank.Sound tx.lookup) (hW : Withdrawable tx.lookup source destination x cfg src dst) :
    ∃ r tx', withdrawFee source destination x tx = .ok (r, tx') := by
  have hid : Text.trim src.id = Text.trim source := by rw [(hs.account _ _ hW.source).1, Text.trim_trim]
  obtain ⟨t, ht⟩ : ∃ t, Bank.transfer cfg.custodialSigner src.id destination x tx = .ok ((), t) :=
    Bank.transfer_runs hraw hw hs (hid ▸ hW.sourceNamed) hW.destinationNamed (hid ▸ hW.source) hW.destination
      hW.custodial hW.sameAsset.symm hW.funds
  unfold withdrawFee
  simp [Nat.pos_iff_ne_zero.mp hW.pos, requireAppConfig_eq hraw hW.settings, bankStep, Txn.mapFault,
    Bank.account_eq hraw hW.sourceNamed hW.source, hW.custodial, requireAccount_eq hraw hW.destinationNamed
    hW.destination hW.sameAsset, ht, bind, StateT.bind, Except.bind, pure, StateT.pure, Except.pure]

end

/-- Over a reachable store a fee withdrawal commits exactly when it is
`Withdrawable`, and what it commits is the move and nothing else. -/
theorem fee_withdrawal_exact {e : Engine} {S : Store} (hS : Reachable e S) (source destination : String) (x : Nat) :
    ((∃ r db', atomic { store := S } (withdrawFee source destination x) = .ok (r, db')) ↔
      ∃ cfg src dst, Withdrawable S.get? source destination x cfg src dst) ∧
    ∀ r db', atomic { store := S } (withdrawFee source destination x) = .ok (r, db') →
      ∃ cfg src dst, Withdrawable S.get? source destination x cfg src dst ∧ Moved S.get? db'.store.get? src dst x := by
  have hL : ({ db := { store := S } } : Tx).lookup = S.get? := Tx.lookup_start _
  have hs : Bank.Sound ({ db := { store := S } } : Tx).lookup := hL ▸ Bank.Sound.of_reachable hS
  have hst : ∀ r tx', Returns (withdrawFee source destination x) { db := { store := S } } r tx' →
      Tx.Stages (fun _ => True) { db := { store := S } } tx' := fun r tx' h =>
    Op.stages (show Returns ((Op.withdrawFee source destination x).txn e ⟨0, "", true⟩) _ r tx' from h)
  -- a committed withdrawal returned, and its store is the view it left
  have hmoves : ∀ r db', atomic { store := S } (withdrawFee source destination x) = .ok (r, db') →
      ∃ cfg src dst, Withdrawable S.get? source destination x cfg src dst ∧ Moved S.get? db'.store.get? src dst x := by
    intro r db' h
    obtain ⟨tx', hm, hc⟩ := atomic_eq_ok h
    rw [atomic_lookup (hst r tx' hm) hc, ← hL]
    exact withdrawFee_moves hs hm
  refine ⟨⟨fun ⟨r, db', h⟩ => ?_, fun ⟨cfg, src, dst, hW⟩ => ?_⟩, hmoves⟩
  · obtain ⟨cfg, src, dst, hW, -⟩ := hmoves r db' h
    exact ⟨cfg, src, dst, hW⟩
  · rw [← hL] at hW
    obtain ⟨r, tx', hrun⟩ := withdrawFee_runs (Tx.raw_of_db rfl) rfl hs hW
    cases hat : atomic { store := S } (withdrawFee source destination x) with
    | error f =>
      have := Api.atomic_error_plain hst hat
      rw [hrun] at this
      cases this
    | ok p => exact ⟨p.1, p.2, rfl⟩

/-- After the sample burn the custodian withdraws one unit of `AAA` fees to
the user: the withdrawal commits, so it is `Withdrawable`, and it moves the
unit. -/
theorem fee_withdrawal_after_burn :
    Reachable Sample.engine Sample.burned ∧
      (∃ r db', atomic { store := Sample.burned } (withdrawFee "custody-AAA" "user-AAA" 1) = .ok (r, db')) ∧
      ((∃ r db', atomic { store := Sample.burned } (withdrawFee "custody-AAA" "user-AAA" 1) = .ok (r, db')) ↔
        ∃ cfg src dst, Withdrawable Sample.burned.get? "custody-AAA" "user-AAA" 1 cfg src dst) ∧
      ∀ r db', atomic { store := Sample.burned } (withdrawFee "custody-AAA" "user-AAA" 1) = .ok (r, db') →
        ∃ cfg src dst, Withdrawable Sample.burned.get? "custody-AAA" "user-AAA" 1 cfg src dst ∧
          Moved Sample.burned.get? db'.store.get? src dst 1 :=
  ⟨Sample.burned_reachable, Sample.withdrawal_commits,
    fee_withdrawal_exact Sample.burned_reachable "custody-AAA" "user-AAA" 1⟩

end Issuance
