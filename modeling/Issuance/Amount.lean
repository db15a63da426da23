import Issuance.Fault
/-! # Amounts

Amounts, caps and counters are 64-bit unsigned words, natural numbers below
`bound` here. An operation that would leave the range fails with
`arithmeticOverflow`; `mulDiv` divides the exact product. -/
namespace Issuance.Amount

def bound : Nat := Nat.pow 2 64

def basisPoints : Nat := 10000

def maxDecimals : Nat := 19

/-- `⌊v * n / d⌋`, refused for `d = 0` and for a quotient that does not fit. -/
def mulDiv (v n d : Nat) : Except Fault Nat :=
  if d = 0 then .error (Fault.raise .arithmeticOverflow "division by zero")
  else if v * n / d < bound then .ok (v * n / d)
  else .error (Fault.raise .arithmeticOverflow
    (toString v ++ "*" ++ toString n ++ "/" ++ toString d ++ " exceeds 64 bits"))

def pow10 (d : Nat) : Except Fault Nat :=
  if d ≤ maxDecimals then .ok (Nat.pow 10 d)
  else .error (Fault.raise .arithmeticOverflow ("10^" ++ toString d ++ " exceeds 64 bits"))

/-- `v` moved from `fromDecimals` to `toDecimals`, rounding down; the target
scale is checked before the source scale. -/
def rescale (v fromDecimals toDecimals : Nat) : Except Fault Nat := do
  let t ← pow10 toDecimals
  let f ← pow10 fromDecimals
  mulDiv v t f

/-- `a + b`, refused when it does not fit. -/
def checkedAdd (a b : Nat) : Except Fault Nat :=
  if a + b < bound then .ok (a + b)
  else .error (Fault.raise .arithmeticOverflow (toString a ++ "+" ++ toString b))

/-- `a - b`, refused when `b` exceeds `a`. -/
def checkedSub (a b : Nat) : Except Fault Nat :=
  if b ≤ a then .ok (a - b)
  else .error (Fault.raise .arithmeticOverflow (toString a ++ "-" ++ toString b ++ " underflows"))

theorem mulDiv_eq_ok {v n d q : Nat} :
    mulDiv v n d = .ok q ↔ d ≠ 0 ∧ v * n / d < bound ∧ q = v * n / d := by
  unfold mulDiv
  split
  · simp_all
  · split
    · simp_all [eq_comm]
    · simp only [reduceCtorEq, false_iff]
      exact fun h => absurd h.2.1 (by assumption)

theorem pow10_eq_ok {d q : Nat} : pow10 d = .ok q ↔ d ≤ maxDecimals ∧ q = Nat.pow 10 d := by
  unfold pow10
  split
  · simp_all [eq_comm]
  · simp only [reduceCtorEq, false_iff]
    exact fun h => absurd h.1 (by assumption)

theorem checkedAdd_eq_ok {a b c : Nat} : checkedAdd a b = .ok c ↔ a + b < bound ∧ c = a + b := by
  unfold checkedAdd
  split
  · simp_all [eq_comm]
  · simp only [reduceCtorEq, false_iff]
    exact fun h => absurd h.1 (by assumption)

theorem checkedSub_eq_ok {a b c : Nat} : checkedSub a b = .ok c ↔ b ≤ a ∧ c = a - b := by
  unfold checkedSub
  split
  · simp_all [eq_comm]
  · simp only [reduceCtorEq, false_iff]
    exact fun h => absurd h.1 (by assumption)

end Issuance.Amount
