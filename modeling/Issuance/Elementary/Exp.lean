import Issuance.Decimal.Arith
/-! # Exponential, logarithms and powers in binary64

Fixed sequences of rounded binary64 operations: `exp` reduces by `k · ln 2`,
sums Taylor terms and squares; `log` sums a series in `(f − 1)/(f + 1)`;
`log1p` and `pow` build on them. -/
namespace Issuance.Elementary

open Decimal Binary64

/-! ## The exponential -/

def log2e : Binary64 := 1.4426950408889634073599246810018920

def ln2Upper : Binary64 := 0.69314718055966295651160180568695068359375

def ln2Lower : Binary64 := 0.28235290563031577122588448175013436025525412068e-12

def expBound : Binary64 := 7.09782712893384e+02

def expSeries : List Binary64 :=
  [2.4801587301587301587e-5, 1.9841269841269841270e-4, 1.3888888888888888889e-3,
    8.3333333333333333333e-3, 4.1666666666666666667e-2, 1.6666666666666666667e-1, 0.5, 1.0]

def wordFloor : Int := -(Int.pow 2 31)

def exp (x : Binary64) : Binary64 :=
  match x with
  | .nan => .nan
  | .infinite true => zero false
  | .infinite false => x
  | .finite .. =>
    if expBound < x then .infinite false else
    let k : Int := match (log2e * x).truncate with
      | some t => if t < wordFloor then wordFloor else t
      | none => wordFloor
    if k + 1023 < -52 then zero false else
    let fk := Binary64.ofInt k
    let r := fma fk.negate ln2Lower (fma fk.negate ln2Upper x)
    let r := r * 0.0625
    let p := horner expSeries r * r
    let p := (List.replicate 4 ()).foldl (fun p _ => (2 + p) * p) p
    ldexp (p + 1) k

/-! ## Logarithms -/

def ln2Hi : Binary64 := 6.93147180369123816490e-01

def ln2Lo : Binary64 := 1.90821492927058770002e-10

def halfSqrt2 : Binary64 := 7.07106781186547524401e-01

def logOdd : List Binary64 :=
  [1.479819860511658591e-01, 1.818357216161805012e-01, 2.857142874366239149e-01, 6.666666666666735130e-01]

def logEven : List Binary64 :=
  [1.531383769920937332e-01, 2.222219843214978396e-01, 3.999999999940941908e-01]

def log (x : Binary64) : Binary64 :=
  match x with
  | .nan => .nan
  | .infinite true => .nan
  | .infinite false => x
  | .finite n m _ =>
    if m = 0 then .infinite true
    else if n then .nan
    else
      let w := x.toBits
      let f1 := ofBits (w % hiddenBit + 1022 * hiddenBit)
      let k0 : Int := ((w / hiddenBit : Nat) : Int) - 1022
      let (f, k) := if f1 ≤ halfSqrt2 then (f1 * 2 - 1, k0 - 1) else (f1 - 1, k0)
      let k := Binary64.ofInt k
      let s := f / (2 + f)
      let s2 := s * s
      let s4 := s2 * s2
      let t1 := s2 * horner logOdd s4
      let t2 := s4 * horner logEven s4
      let r := t1 + t2
      let hfsq := 0.5 * f * f
      k * ln2Hi - ((hfsq - (s * (hfsq + r) + k * ln2Lo)) - f)

def log1pSeries : List Binary64 :=
  [1.479819860511658591e-01, 1.531383769920937332e-01, 1.818357216161805012e-01,
    2.222219843214978396e-01, 2.857142874366239149e-01, 3.999999999940941908e-01,
    6.666666666666735130e-01]

def sqrt2Minus1 : Binary64 := 4.142135623730950488017e-01

def halfSqrt2Minus1 : Binary64 := -2.928932188134524755992e-01

def sqrt2Fraction : Nat := 0x0006a09e667f3bcd

def log1p (x : Binary64) : Binary64 :=
  if x < -1 || x.isNaN then .nan
  else if x.eq (-1) then .infinite true
  else if x.isInfinite then .infinite false
  else
  let absx := x.abs
  let small : Binary64 := ldexp 1 (-29)
  let tiny : Binary64 := ldexp 1 (-54)
  if absx < sqrt2Minus1 && absx < small then
    (if absx < tiny then x else x - x * x * 0.5)
  else
  -- reduce to `f` with `√2/2 < 1 + f < √2` and `k`, with `c` the rounding of `1 + x`
  let near := absx < sqrt2Minus1 && halfSqrt2Minus1 < x
  let (f, k, c, iu) : Binary64 × Int × Binary64 × Nat :=
    if near then (x, 0, zero false, 1) else
    let (u, c) : Binary64 × Binary64 :=
      if absx < ldexp 1 53 then
        let u := 1 + x
        let k : Int := ((u.toBits / hiddenBit : Nat) : Int) - 1023
        (u, (if k > 0 then 1 - (u - x) else x - (u - 1)) / u)
      else (x, zero false)
    let iu := u.toBits
    let k : Int := ((iu / hiddenBit : Nat) : Int) - 1023
    let iu := iu % hiddenBit
    if iu < sqrt2Fraction then (ofBits (iu + 1023 * hiddenBit) - 1, k, c, iu)
    else (ofBits (iu + 1022 * hiddenBit) - 1, k + 1, c, (hiddenBit - iu) / 4)
  let fk := Binary64.ofInt k
  let hfsq := 0.5 * f * f
  if iu = 0 then
    if f.isZero then
      (if k = 0 then zero false else fk * ln2Hi + (c + fk * ln2Lo))
    else
      let r := hfsq * (1 - 0.66666666666666666 * f)
      if k = 0 then f - r else fk * ln2Hi - ((r - (fk * ln2Lo + c)) - f)
  else
    let s := f / (2 + f)
    let z := s * s
    let r := z * horner log1pSeries z
    if k = 0 then f - (hfsq - s * (hfsq + r))
    else fk * ln2Hi - ((hfsq - (s * (hfsq + r) + (fk * ln2Lo + c))) - f)

/-! ## Powers -/

def isOddWhole (x : Binary64) : Bool :=
  if ldexp 1 53 ≤ x.abs then false else
  let (w, r) := x.modf
  r.isZero && ((w.truncate.getD 0) % 2 == 1)

/-- Multiply `a · 2^ae` by `x1 · 2^xe` to the bits of `i`, lowest first,
keeping `x1` in `[1/2, 1)`; an exponent leaving `±2^12` stops the loop. -/
def powSquares : Nat → Int → Binary64 × Int → Binary64 × Int → Binary64 × Int
  | 0, _, acc, _ => acc
  | fuel + 1, i, (a1, ae), (x1, xe) =>
    if i = 0 then (a1, ae)
    else if xe < -4096 || 4096 < xe then (a1, ae + xe)
    else
      let (a1, ae) := if i % 2 = 1 then (a1 * x1, ae + xe) else (a1, ae)
      let x1 := x1 * x1
      let xe := 2 * xe
      let (x1, xe) := if x1 < 0.5 then (x1 + x1, xe - 1) else (x1, xe)
      powSquares fuel (i / 2) (a1, ae) (x1, xe)

/-- `x` to the power `y`. Whole powers are exact up to the rounding of each
multiplication; a negative `x` to a power with a fraction is not-a-number. -/
def pow (x y : Binary64) : Binary64 :=
  if y.isZero || x.eq 1 then 1
  else if y.eq 1 then x
  else if x.isNaN || y.isNaN then .nan
  else if x.isZero then
    if y < 0 then (if x.signBit && isOddWhole y then .infinite true else .infinite false)
    else (if x.signBit && isOddWhole y then x else zero false)
  else if y.isInfinite then
    if x.eq (-1) then 1
    else if (x.abs < 1) == (0 < y) then zero false
    else .infinite false
  else if x.isInfinite then
    if x.signBit then
      -- the power of −∞ is that of −0 to the opposite power
      let y := y.negate
      if y < 0 then (if isOddWhole y then .infinite true else .infinite false)
      else (if isOddWhole y then zero true else zero false)
    else if y < 0 then zero false else .infinite false
  else if y.eq 0.5 then x.sqrt
  else if y.eq (-0.5) then 1 / x.sqrt
  else
  let (yi, yf) := y.abs.modf
  if !yf.isZero && x < 0 then .nan
  else if ldexp 1 63 ≤ yi then
    if x.eq (-1) then 1
    else if (x.abs < 1) == (0 < y) then zero false
    else .infinite false
  else
  let (yi, yf) := if 0.5 < yf then (yi + 1, yf - 1) else (yi, yf)
  let a1 : Binary64 := if yf.isZero then 1 else exp (yf * log x)
  let (a1, ae) := powSquares 64 (yi.truncate.getD 0) (a1, 0) x.frexp
  if y < 0 then ldexp (1 / a1) (-ae) else ldexp a1 ae

end Issuance.Elementary
