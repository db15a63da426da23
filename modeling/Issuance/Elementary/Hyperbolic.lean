import Issuance.Elementary.Trig
/-! # Hyperbolic functions in binary64

Rational approximations near zero and the exponential beyond; the inverses
are logarithms, through `log1p` near one. -/
namespace Issuance.Elementary

open Decimal Binary64

def sinhNumerator : List Binary64 :=
  [-0.2630563213397497062819489000e+2, -0.2894211355989563807284660366e+4,
    -0.8991272022039509355398013511e+5, -0.6307673640497716991184787251e+6]

def sinhDenominator : List Binary64 :=
  [1, -0.173678953558233699533450911e+3, 0.1521517378790019070696485176e+5,
    -0.6307673640497716991212077277e+6]

def sinh (x : Binary64) : Binary64 :=
  let (a, negative) := if x < 0 then (x.negate, true) else (x, false)
  let temp :=
    if 21 < a then exp a * 0.5
    else if 0.5 < a then
      let ex := exp a
      (ex - 1 / ex) * 0.5
    else
      let sq := a * a
      horner sinhNumerator sq * a / horner sinhDenominator sq
  if negative then temp.negate else temp

def cosh (x : Binary64) : Binary64 :=
  let a := x.abs
  if 21 < a then exp a * 0.5
  else
    let ex := exp a
    (ex + 1 / ex) * 0.5

def tanhNumerator : List Binary64 :=
  [-9.64399179425052238628e-1, -9.92877231001918586564e1, -1.61468768441708447952e3]

def tanhDenominator : List Binary64 :=
  [1, 1.12811678491632931402e2, 2.23548839060100448583e3, 4.84406305325125486048e3]

def maxLog : Binary64 := 8.8029691931113054295988e+01

def tanh (x : Binary64) : Binary64 :=
  let z := x.abs
  if 0.5 * maxLog < z then (if x < 0 then -1 else 1)
  else if 0.625 ≤ z then
    let s := exp (2 * z)
    let z := 1 - 2 / (s + 1)
    if x < 0 then z.negate else z
  else if x.isZero then x
  else
    let s := x * x
    x + x * s * horner tanhNumerator s / horner tanhDenominator s

def ln2 : Binary64 := 0.6931471805599453

def asinh (x : Binary64) : Binary64 :=
  if x.isNaN || x.isInfinite then x else
  let (a, negative) := if x < 0 then (x.negate, true) else (x, false)
  let temp :=
    if ldexp 1 28 < a then log a + ln2
    else if 2 < a then log (2 * a + 1 / ((a * a + 1).sqrt + a))
    else if a < ldexp 1 (-28) then a
    else log1p (a + a * a / (1 + (1 + a * a).sqrt))
  if negative then temp.negate else temp

def acosh (x : Binary64) : Binary64 :=
  if x < 1 || x.isNaN then .nan
  else if x.eq 1 then zero false
  else if ldexp 1 28 ≤ x then log x + ln2
  else if 2 < x then log (2 * x - 1 / (x + (x * x - 1).sqrt))
  else
    let t := x - 1
    log1p (t + (2 * t + t * t).sqrt)

def atanh (x : Binary64) : Binary64 :=
  if x < -1 || 1 < x || x.isNaN then .nan
  else if x.eq 1 then .infinite false
  else if x.eq (-1) then .infinite true
  else
  let (a, negative) := if x < 0 then (x.negate, true) else (x, false)
  let temp :=
    if a < ldexp 1 (-28) then a
    else if a < 0.5 then
      let t := a + a
      0.5 * log1p (t + t * a / (1 - a))
    else 0.5 * log1p ((a + a) / (1 - a))
  if negative then temp.negate else temp

end Issuance.Elementary
