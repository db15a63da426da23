import Mathlib
import Issuance.Amount.Wide
/-! # Fractions of words are exact

Two 64-bit factors make a product below `2 ^ 128`, so the routine never
flags, and the 64-bit test keeps exactly the quotients below `bound`:
given what the library documents (`MulDivExact`), `wideMulDiv` is `mulDiv`
on every triple of words. -/
namespace Issuance.Amount

/-- What the library documents of `MulDivOverflow` and the service relies
on: a quotient below `2 ^ 256` by a non-zero divisor comes back exact and
unflagged. -/
def MulDivExact (f : BitVec 256 → BitVec 256 → BitVec 256 → BitVec 256 × Bool) : Prop :=
  ∀ x y d : BitVec 256, d ≠ 0 → x.toNat * y.toNat / d.toNat < 2 ^ 256 →
    f x y d = (BitVec.ofNat 256 (x.toNat * y.toNat / d.toNat), false)

variable {f : BitVec 256 → BitVec 256 → BitVec 256 → BitVec 256 × Bool}

@[simp] theorem toNat_widen (v : BitVec 64) : (widen v).toNat = v.toNat :=
  BitVec.toNat_setWidth_of_le (by decide)

theorem isUint64_iff (z : BitVec 256) : isUint64 z = true ↔ z.toNat < bound := by
  simp [isUint64, bound, BitVec.toNat_eq, Nat.shiftRight_eq_div_pow, Nat.div_eq_zero_iff]

theorem quotient_lt (v n d : BitVec 64) : v.toNat * n.toNat / d.toNat < 2 ^ 128 :=
  calc v.toNat * n.toNat / d.toNat ≤ v.toNat * n.toNat := Nat.div_le_self _ _
    _ < 2 ^ 64 * 2 ^ 64 := Nat.mul_lt_mul'' v.isLt n.isLt
    _ = 2 ^ 128 := by norm_num

theorem map_toNat_wideMulDiv (hf : MulDivExact f) (v n d : BitVec 64) :
    (wideMulDiv f v n d).map BitVec.toNat = mulDiv v.toNat n.toNat d.toNat := by
  by_cases hd : d = 0
  · subst hd
    rfl
  · have hd' : d.toNat ≠ 0 := by simpa [BitVec.toNat_eq] using hd
    set q := v.toNat * n.toNat / d.toNat with hq_def
    have hq : q < 2 ^ 256 := (quotient_lt v n d).trans (by norm_num)
    -- the routine's overflow flag is never raised for widened 64-bit operands
    have hr : f (widen v) (widen n) (widen d) = (BitVec.ofNat 256 q, false) := by
      simpa using hf (widen v) (widen n) (widen d) (by simpa [BitVec.toNat_eq] using hd) (by simpa using hq)
    have hfit : isUint64 (BitVec.ofNat 256 q) = true ↔ q < bound := by
      rw [isUint64_iff, BitVec.toNat_ofNat, Nat.mod_eq_of_lt hq]
    simp only [wideMulDiv, mulDiv, if_neg hd, if_neg hd', hr, ← hq_def]
    by_cases hb : q < bound
    · rw [if_pos hb, if_neg (by simp [hfit.2 hb])]
      show Except.ok _ = _
      rw [BitVec.setWidth_ofNat_of_le (by decide), BitVec.toNat_ofNat]
      exact congrArg Except.ok (Nat.mod_eq_of_lt hb)
    · rw [if_neg hb, if_pos (by simp [mt hfit.1 hb])]
      rfl

theorem mulDiv_error_code {v n d : Nat} {e : Fault} (h : mulDiv v n d = .error e) :
    e.code = .arithmeticOverflow := by
  unfold mulDiv at h
  split at h
  · cases h; rfl
  · split at h
    · cases h
    · cases h; rfl

theorem overflow_detail_ne (a b c : String) :
    a ++ "*" ++ b ++ "/" ++ c ++ " exceeds 64 bits" ≠ "division by zero" := by
  intro h
  have hlen := congrArg String.length h
  simp [String.length] at hlen
  omega

theorem mulDiv_eq_divZero_iff {v n d : Nat} :
    mulDiv v n d = .error (Fault.raise .arithmeticOverflow "division by zero") ↔ d = 0 := by
  unfold mulDiv
  split
  · next hd => simp [hd]
  · next hd =>
    split
    · simp [hd]
    · simp [Fault.raise, overflow_detail_ne, hd]

/-- `r` is `⌊v * n / d⌋` as a 64-bit result: a word exactly when `d ≠ 0` and
the quotient is below `bound`, then the quotient; every failure an overflow,
the division by zero exactly when `d = 0`. -/
structure ExactFloor (r : Except Fault (BitVec 64)) (v n d : Nat) : Prop where
  ok_iff : ∀ q : BitVec 64, r = .ok q ↔ d ≠ 0 ∧ v * n / d < bound ∧ q.toNat = v * n / d
  overflow : ∀ e, r = .error e → e.code = .arithmeticOverflow
  divByZero : r = .error (Fault.raise .arithmeticOverflow "division by zero") ↔ d = 0

theorem map_toNat_eq {r : Except Fault (BitVec 64)} {m : Except Fault Nat} (h : r.map BitVec.toNat = m) :
    (∀ q, r = .ok q ↔ m = .ok q.toNat) ∧ ∀ e, r = .error e ↔ m = .error e := by
  subst h
  cases r <;> simp [Except.map, BitVec.toNat_inj]

theorem wideMulDiv_exact (hf : MulDivExact f) (v n d : BitVec 64) :
    ExactFloor (wideMulDiv f v n d) v.toNat n.toNat d.toNat := by
  obtain ⟨hok, herr⟩ := map_toNat_eq (map_toNat_wideMulDiv hf v n d)
  refine ⟨fun q => ?_, fun e he => mulDiv_error_code ((herr e).1 he), ?_⟩
  · rw [hok, mulDiv_eq_ok]
  · rw [herr, mulDiv_eq_divZero_iff]

/-- A routine as the library documents it: the quotient's low 256 bits,
flagged when it needs more. -/
def fullMulDiv (x y d : BitVec 256) : BitVec 256 × Bool :=
  (BitVec.ofNat 256 (x.toNat * y.toNat / d.toNat), decide (2 ^ 256 ≤ x.toNat * y.toNat / d.toNat))

theorem wideMulDiv_exact_three_quarters :
    MulDivExact fullMulDiv ∧
      ExactFloor (wideMulDiv fullMulDiv (BitVec.allOnes 64) 3 4) (2 ^ 64 - 1) 3 4 := by
  have hf : MulDivExact fullMulDiv := fun x y d _ h => by
    rw [fullMulDiv, decide_eq_false (Nat.not_le.2 h)]
  exact ⟨hf, by simpa using wideMulDiv_exact hf (BitVec.allOnes 64) 3 4⟩

end Issuance.Amount
