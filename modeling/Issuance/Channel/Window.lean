import Issuance.Channel.Basic
import Issuance.Amount
/-! # The rolling issuance window

A period begins at the anchor and lasts the configured hours. A conversion
takes one snapshot: inside the period its count counts, after it the
conversion opens a new period. The caps admit what keeps both counts
within them (`remaining`). -/
namespace Issuance.Channel

/-- A signed 64-bit sum, wrapping as the clock arithmetic does. -/
def wrapTime (i : Int) : Int :=
  let m := Int.toNat (i % Int.pow 2 64)
  if m < Nat.pow 2 63 then m else (m : Int) - Int.pow 2 64

structure Snapshot where
  now : Int
  inWindow : Bool
  issued : Nat
  deriving DecidableEq, Repr

/-- The window of counters with a period of `hours` at `now`: the period
runs while its anchor plus its length is after `now`. -/
def snapshot (c : Counters) (hours : Nat) (now : Int) : Snapshot :=
  let running := decide (wrapTime (c.periodAnchor + hours * 3600) > now)
  ⟨now, running, if running then c.periodIssued else 0⟩

def Snapshot.checkCaps (w : Snapshot) (c : Counters) (amount : Nat) : Except Fault Unit :=
  let period := w.issued + amount
  let lifetime := c.lifetimeIssued + amount
  if period ≥ Amount.bound then .error (Fault.raise .limitReached "period issuance overflows")
  else if period > c.periodCap then
    .error (Fault.raise .limitReached ("period issuance " ++ toString period ++ " would exceed cap " ++
      toString c.periodCap))
  else if lifetime ≥ Amount.bound then .error (Fault.raise .limitReached "lifetime issuance overflows")
  else if lifetime > c.lifetimeCap then
    .error (Fault.raise .limitReached ("lifetime issuance " ++ toString lifetime ++ " would exceed cap " ++
      toString c.lifetimeCap))
  else .ok ()

def Snapshot.apply (w : Snapshot) (c : Counters) (amount : Nat) : Except Fault (Counters × Bool) := do
  let lifetime ← Amount.checkedAdd c.lifetimeIssued amount
  let period ← Amount.checkedAdd w.issued amount
  let c := { c with lifetimeIssued := lifetime, periodIssued := period }
  if w.inWindow then pure (c, false) else pure ({ c with periodAnchor := w.now }, true)

def remaining (c : Counters) (hours : Nat) (now : Int) : Nat :=
  let w := snapshot c hours now
  min (c.lifetimeCap - c.lifetimeIssued) (c.periodCap - w.issued)

theorem checkCaps_eq_ok {w : Snapshot} {c : Counters} {x : Nat} :
    w.checkCaps c x = .ok () ↔
      w.issued + x < Amount.bound ∧ w.issued + x ≤ c.periodCap ∧
        c.lifetimeIssued + x < Amount.bound ∧ c.lifetimeIssued + x ≤ c.lifetimeCap := by
  unfold Snapshot.checkCaps
  by_cases h1 : w.issued + x ≥ Amount.bound
  · simp only [h1, if_true, reduceCtorEq, false_iff]
    omega
  · by_cases h2 : w.issued + x > c.periodCap
    · simp only [h1, h2, if_true, if_false, reduceCtorEq, false_iff]
      omega
    · by_cases h3 : c.lifetimeIssued + x ≥ Amount.bound
      · simp only [h1, h2, h3, if_true, if_false, reduceCtorEq, false_iff]
        omega
      · by_cases h4 : c.lifetimeIssued + x > c.lifetimeCap
        · simp only [h1, h2, h3, h4, if_true, if_false, reduceCtorEq, false_iff]
          omega
        · simp only [h1, h2, h3, h4, if_false, true_iff]
          omega

end Issuance.Channel
