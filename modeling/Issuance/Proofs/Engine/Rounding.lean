import Mathlib
import Issuance.Proofs.Engine.Effects
/-! # Conversions round down

Each step of a conversion divides and rounds down, so a leg's take and a
burn's cost grow with the amount and never exceed the exact fraction: a
mint never takes more collateral, nor a burn more of the stable unit, than
the price asks. -/
namespace Issuance

theorem Leg.take_mono {sd A A' : Nat} (l : Leg) (p : Price) (h : A ≤ A') : l.take sd A p ≤ l.take sd A' p := by
  unfold Leg.take
  gcongr

theorem Leg.take_le (sd A : Nat) (l : Leg) (p : Price) :
    l.take sd A p * p.value * 10 ^ sd * Amount.basisPoints ≤ A * l.weightBps * p.precision * 10 ^ l.decimals := by
  set v := A * l.weightBps / Amount.basisPoints
  set c := v * p.precision / p.value
  have h1 : l.take sd A p * 10 ^ sd ≤ c * 10 ^ l.decimals := Nat.div_mul_le_self _ _
  have h2 : c * p.value ≤ v * p.precision := Nat.div_mul_le_self _ _
  have h3 : v * Amount.basisPoints ≤ A * l.weightBps := Nat.div_mul_le_self _ _
  calc l.take sd A p * p.value * 10 ^ sd * Amount.basisPoints
      = l.take sd A p * 10 ^ sd * p.value * Amount.basisPoints := by ring
    _ ≤ c * 10 ^ l.decimals * p.value * Amount.basisPoints := by gcongr
    _ = c * p.value * 10 ^ l.decimals * Amount.basisPoints := by ring
    _ ≤ v * p.precision * 10 ^ l.decimals * Amount.basisPoints := by gcongr
    _ = v * Amount.basisPoints * p.precision * 10 ^ l.decimals := by ring
    _ ≤ A * l.weightBps * p.precision * 10 ^ l.decimals := by gcongr

theorem Price.cost_mono {sd X X' od : Nat} (p : Price) (h : X ≤ X') : p.cost sd X od ≤ p.cost sd X' od := by
  unfold Price.cost
  gcongr

theorem Price.cost_le (p : Price) (sd X od : Nat) : p.cost sd X od * p.precision * 10 ^ od ≤ X * p.value * 10 ^ sd := by
  set v := X * p.value / p.precision
  have h1 : p.cost sd X od * 10 ^ od ≤ v * 10 ^ sd := Nat.div_mul_le_self _ _
  have h2 : v * p.precision ≤ X * p.value := Nat.div_mul_le_self _ _
  calc p.cost sd X od * p.precision * 10 ^ od = p.cost sd X od * 10 ^ od * p.precision := by ring
    _ ≤ v * 10 ^ sd * p.precision := by gcongr
    _ = v * p.precision * 10 ^ sd := by ring
    _ ≤ X * p.value * 10 ^ sd := by gcongr

/-- A leg's amount and a burn's cost grow with the amount and stay at or
below the exact fraction. -/
theorem pricing_rounds_down :
    (∀ (sd A A' : Nat) (l : Leg) (p : Price) (n n' : Nat), A ≤ A' →
      legAmount sd A l p = .ok n → legAmount sd A' l p = .ok n' → n ≤ n') ∧
    (∀ (sd A : Nat) (l : Leg) (p : Price) (n : Nat), legAmount sd A l p = .ok n →
      n * p.value * 10 ^ sd * 10000 ≤ A * l.weightBps * p.precision * 10 ^ l.decimals) ∧
    (∀ (sd X X' od : Nat) (p : Price) (c c' : Nat), X ≤ X' →
      stableCost sd X od p = .ok c → stableCost sd X' od p = .ok c' → c ≤ c') ∧
    (∀ (sd X od : Nat) (p : Price) (c : Nat), stableCost sd X od p = .ok c →
      c * p.precision * 10 ^ od ≤ X * p.value * 10 ^ sd) := by
  refine ⟨fun sd A A' l p n n' hA h h' => ?_, fun sd A l p n h => ?_, fun sd X X' od p c c' hX h h' => ?_,
    fun sd X od p c h => ?_⟩
  · rw [(legAmount_eq_ok h).1, (legAmount_eq_ok h').1]
    exact l.take_mono p hA
  · rw [(legAmount_eq_ok h).1]
    exact l.take_le sd A p
  · rw [(stableCost_eq_ok h).1, (stableCost_eq_ok h').1]
    exact p.cost_mono hX
  · rw [(stableCost_eq_ok h).1]
    exact p.cost_le sd X od

/-- At a price of 3/2 half-weight legs of 7 and of 9 units both take 2, and
outputs of 7 and of 9 cost 10 and 13: each rounded down, and in order. -/
theorem pricing_rounds_down_at_three_halves :
    legAmount 6 7 ⟨"AAA", 6, 5000, ""⟩ ⟨3, 2⟩ = .ok 2 ∧ legAmount 6 9 ⟨"AAA", 6, 5000, ""⟩ ⟨3, 2⟩ = .ok 2 ∧
      2 * 3 * 10 ^ 6 * 10000 ≤ 7 * 5000 * 2 * 10 ^ 6 ∧
      stableCost 6 7 6 ⟨3, 2⟩ = .ok 10 ∧ stableCost 6 9 6 ⟨3, 2⟩ = .ok 13 ∧ 10 ≤ 13 ∧
      10 * 2 * 10 ^ 6 ≤ 7 * 3 * 10 ^ 6 := by
  have h₁ : legAmount 6 7 ⟨"AAA", 6, 5000, ""⟩ ⟨3, 2⟩ = .ok 2 := rfl
  have h₂ : legAmount 6 9 ⟨"AAA", 6, 5000, ""⟩ ⟨3, 2⟩ = .ok 2 := rfl
  have h₃ : stableCost 6 7 6 ⟨3, 2⟩ = .ok 10 := rfl
  have h₄ : stableCost 6 9 6 ⟨3, 2⟩ = .ok 13 := rfl
  obtain ⟨-, hle, hmono, hcost⟩ := pricing_rounds_down
  have h₅ := hle 6 7 _ _ 2 h₁
  have h₆ := hmono 6 7 9 6 _ 10 13 (by decide) h₃ h₄
  have h₇ := hcost 6 7 6 _ 10 h₃
  exact ⟨h₁, h₂, h₅, h₃, h₄, h₆, h₇⟩

end Issuance
