import Issuance.Decimal.Binary
/-! # Arithmetic on binary64 values

Each operator is the exact result rounded once to nearest, as IEEE 754 has
it for comparisons, zeros and not-a-number, with the exact helpers the
elementary functions use. -/
namespace Issuance.Decimal

namespace Binary64

instance : Add Binary64 := ⟨add⟩
instance : Sub Binary64 := ⟨sub⟩
instance : Mul Binary64 := ⟨mul⟩
instance : Div Binary64 := ⟨div⟩
instance : Neg Binary64 := ⟨negate⟩

instance : OfScientific Binary64 :=
  ⟨fun m neg e => if neg then Binary64.ofDecimal false m (-(e : Int)) else Binary64.ofDecimal false m e⟩

instance (n : Nat) : OfNat Binary64 n := ⟨Binary64.ofInt n⟩

def lt (a b : Binary64) : Bool := !a.isNaN && !b.isNaN && a.compare b == .lt

def le (a b : Binary64) : Bool := !a.isNaN && !b.isNaN && a.compare b != .gt

def eq (a b : Binary64) : Bool := !a.isNaN && !b.isNaN && a.compare b == .eq

instance : LT Binary64 := ⟨fun a b => a.lt b = true⟩
instance : LE Binary64 := ⟨fun a b => a.le b = true⟩
instance (a b : Binary64) : Decidable (a < b) := inferInstanceAs (Decidable (a.lt b = true))
instance (a b : Binary64) : Decidable (a ≤ b) := inferInstanceAs (Decidable (a.le b = true))

def signBit : Binary64 → Bool
  | .finite n .. => n
  | .infinite n => n
  | .nan => false

def isInfinite : Binary64 → Bool
  | .infinite _ => true
  | _ => false

def abs : Binary64 → Binary64
  | .finite _ m q => .finite false m q
  | .infinite _ => .infinite false
  | .nan => .nan

def copySign (x s : Binary64) : Binary64 :=
  if x.signBit == s.signBit then x else x.negate

def scaled (negative : Bool) (m : Nat) (e : Int) : Binary64 :=
  nearest negative (m * Nat.pow 2 e.toNat) (Nat.pow 2 (-e).toNat)

/-- `a · b + c` with a single rounding. An exact zero sum of a nonzero
product is a positive zero; with a zero product the sum is an ordinary one. -/
def fma (a b c : Binary64) : Binary64 :=
  match a.signedRatio, b.signedRatio, c.signedRatio with
  | some (x1, d1), some (x2, d2), some (x3, d3) =>
    let x := x1 * x2 * d3 + x3 * (d1 * d2)
    if x1 * x2 = 0 then a * b + c
    else if x = 0 then zero false
    else nearest (x < 0) x.natAbs (d1 * d2 * d3)
  | _, _, _ => a * b + c

/-- A polynomial at `t` by Horner's rule, its coefficients highest first:
`[c₀, c₁, c₂]` gives `(c₀ · t + c₁) · t + c₂`, every step rounded. -/
def horner (cs : List Binary64) (t : Binary64) : Binary64 :=
  match cs with
  | [] => zero false
  | c :: rest => rest.foldl (fun acc c => acc * t + c) c

/-! ## The 64-bit encoding -/

def hiddenBit : Nat := Nat.pow 2 52

/-- The encoding of a value as a 64-bit word: the sign bit, eleven exponent
bits biased by 1023, and 52 fraction bits. Not-a-number is the quiet one with
payload one. -/
def toBits : Binary64 → Nat
  | .finite n m q =>
    let sign := if n then Nat.pow 2 63 else 0
    if m < hiddenBit then sign + m
    else sign + (q + 1075).toNat * hiddenBit + (m - hiddenBit)
  | .infinite n => (if n then Nat.pow 2 63 else 0) + 2047 * hiddenBit
  | .nan => 2047 * hiddenBit + Nat.pow 2 51 + 1

def ofBits (w : Nat) : Binary64 :=
  let w := w % Nat.pow 2 64
  let n := w ≥ Nat.pow 2 63
  let e := (w / hiddenBit) % 2048
  let f := w % hiddenBit
  if e = 2047 then (if f = 0 then .infinite n else .nan)
  else if e = 0 then .finite n f minExponent
  else .finite n (f + hiddenBit) ((e : Int) - 1075)

/-! ## Fraction and exponent -/

/-- A nonzero finite value split as `frac · 2^exp` with `1/2 ≤ |frac| < 1`;
zeros, infinities and not-a-number come back whole with exponent zero. -/
def frexp : Binary64 → Binary64 × Int
  | .finite n m q =>
    if m = 0 then (.finite n m q, 0) else
    let b := Nat.log2 m + 1
    (.finite n (m * Nat.pow 2 (53 - b)) (-53), q + b)
  | x => (x, 0)

def ldexp (x : Binary64) (e : Int) : Binary64 :=
  match x with
  | .finite n m q =>
    if m = 0 then x
    else if q + e ≥ 1024 then .infinite n
    else if q + e + (Nat.log2 m : Int) < -1080 then zero n
    else scaled n m (q + e)
  | _ => x

/-! ## Whole parts -/

def wholeOf (m : Nat) (q : Int) : Nat :=
  if q ≥ 0 then m * Nat.pow 2 q.toNat else m / Nat.pow 2 (-q).toNat

def modf : Binary64 → Binary64 × Binary64
  | .finite n m q =>
    let w := wholeOf m q
    let whole := if w = 0 then zero n else nearest n w 1
    let r := (whole.negate.add (.finite n m q))
    (whole, if r.isZero then zero n else r)
  | .infinite n => (.infinite n, .nan)
  | .nan => (.nan, .nan)

def trunc (x : Binary64) : Binary64 :=
  match x with
  | .finite .. => x.modf.1
  | _ => x

def floor (x : Binary64) : Binary64 :=
  match x with
  | .finite n m _ =>
    if m = 0 then x
    else if n then
      let (w, r) := x.negate.modf
      (if r.isZero then w else w + 1).negate
    else x.modf.1
  | _ => x

def ceil (x : Binary64) : Binary64 := x.negate.floor.negate

/-! ## Square root and remainder -/

def sqrt (x : Binary64) : Binary64 :=
  match x with
  | .finite n m q =>
    if m = 0 then x
    else if n then .nan
    else
      let (m, q) := if q % 2 = 0 then (m, q) else (2 * m, q - 1)
      let big := m * Nat.pow 2 128
      let s := Nat.sqrt big
      let num := if s * s = big then 2 * s else 2 * s + 1
      scaled false num (q / 2 - 64 - 1)
  | .infinite false => x
  | _ => .nan

/-- The remainder of `x` by `y` with the sign of `x`, exact: zero divisors,
infinite dividends and not-a-number give not-a-number; an infinite divisor
leaves `x`. -/
def fmod (x y : Binary64) : Binary64 :=
  match x, y with
  | .finite nx _ _, .finite _ my _ =>
    if my = 0 then .nan
    else match x.ratio, y.ratio with
      | some (_, px, dx), some (_, py, dy) =>
        -- |x| = px / dx and |y| = py / dy
        let k := (px * dy) / (dx * py)
        let num := px * dy - k * py * dx
        if num = 0 then zero nx else nearest nx num (dx * dy)
      | _, _ => .nan
  | .finite .., .infinite _ => x
  | _, _ => .nan

end Binary64

end Issuance.Decimal
