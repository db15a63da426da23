import Issuance.Elementary.Exp
/-! # Circular functions in binary64

The argument is reduced to an octant and a rest within `π/4`, in three parts
below `2^29` and by the bits of `4/π` above. The inverses rest on one
rational arctangent on `[0, 0.66]`. -/
namespace Issuance.Elementary

open Decimal Binary64

def pi : Binary64 := 3.141592653589793

def halfPi : Binary64 := 1.5707963267948966

def quarterPi : Binary64 := 0.7853981633974483

def threeQuarterPi : Binary64 := 2.356194490192345

def fourOverPi : Binary64 := 1.2732395447351628

def pi4a : Binary64 := 7.85398125648498535156e-1

def pi4b : Binary64 := 3.77489470793079817668e-8

def pi4c : Binary64 := 2.69515142907905952645e-15

def reduceThreshold : Binary64 := 536870912

def fourOverPiWords : List Nat :=
  [0x1, 0x45f306dc9c882a53, 0xf84eafa3ea69bb81, 0xb6c52b3278872083, 0xfca2c757bd778ac3,
    0x6e48dc74849ba5c0, 0x0c925dd413a32439, 0xfc3bd63962534e7d, 0xd1046bea5d768909,
    0xd338e04d68befc82, 0x7323ac7306a673e9, 0x3908bf177bf25076, 0x3ff12fffbc0b301f,
    0xde5e2316b414da3e, 0xda6cfd9e4f96136e, 0x9e8c7ecd3cbfd45a, 0xea4f758fd7cbe2f6,
    0x7a0e73ef14a525d4, 0xd7f6bf623f1aba10, 0xac06608df8f6d757]

def wordSize : Nat := Nat.pow 2 64

def piWindow (i shift : Nat) : Nat :=
  (fourOverPiWords.getD i 0 * Nat.pow 2 shift) % wordSize
    + fourOverPiWords.getD (i + 1) 0 / Nat.pow 2 (64 - shift)

def reduceLarge (x : Binary64) : Nat × Binary64 :=
  if x < quarterPi then (0, x) else
  let w := x.toBits
  let ix := w % hiddenBit + hiddenBit
  let e : Int := (((w / hiddenBit) % 2048 : Nat) : Int) - 1075
  let at61 := (e + 61).toNat
  let digit := at61 / 64
  let shift := at61 % 64
  let z0 := piWindow digit shift
  let z1 := piWindow (digit + 1) shift
  let z2 := piWindow (digit + 2) shift
  let z2hi := (z2 * ix) / wordSize
  let z1hi := (z1 * ix) / wordSize
  let z1lo := (z1 * ix) % wordSize
  let z0lo := (z0 * ix) % wordSize
  let lo := (z1lo + z2hi) % wordSize
  let carry := (z1lo + z2hi) / wordSize
  let hi := (z0lo + z1hi + carry) % wordSize
  let j := hi / Nat.pow 2 61
  let hi := (hi * 8) % wordSize + lo / Nat.pow 2 61
  let lz := 64 - (if hi = 0 then 0 else Nat.log2 hi + 1)
  let biased := 1023 - (lz + 1)
  let hi := (hi * Nat.pow 2 (lz + 1)) % wordSize + (if lz + 1 ≤ 64 then lo / Nat.pow 2 (64 - (lz + 1)) else 0)
  let hi := hi / Nat.pow 2 12 + biased * hiddenBit
  let z := ofBits hi
  let (j, z) := if j % 2 = 1 then ((j + 1) % 8, z - 1) else (j, z)
  (j, z * quarterPi)

def octant (x : Binary64) : Nat × Binary64 :=
  if reduceThreshold ≤ x then reduceLarge x else
  let j := ((x * fourOverPi).truncate.getD 0).toNat
  let y := Binary64.ofInt j
  let (j, y) := if j % 2 = 1 then (j + 1, y + 1) else (j, y)
  (j % 8, ((x - y * pi4a) - y * pi4b) - y * pi4c)

def sinSeries : List Binary64 :=
  [1.58962301576546568060e-10, -2.50507477628578072866e-8, 2.75573136213857245213e-6,
    -1.98412698295895385996e-4, 8.33333333332211858878e-3, -1.66666666666666307295e-1]

def cosSeries : List Binary64 :=
  [-1.13585365213876817300e-11, 2.08757008419747316778e-9, -2.75573141792967388112e-7,
    2.48015872888517045348e-5, -1.38888888888730564116e-3, 4.16666666666665929218e-2]

def sinNear (z : Binary64) : Binary64 :=
  let zz := z * z
  z + z * zz * horner sinSeries zz

def cosNear (z : Binary64) : Binary64 :=
  let zz := z * z
  1 - 0.5 * zz + zz * zz * horner cosSeries zz

def sin (x : Binary64) : Binary64 :=
  if x.isZero || x.isNaN then x
  else if x.isInfinite then .nan
  else
  let (j, z) := octant x.abs
  let (j, flip) := if j > 3 then (j - 4, true) else (j, false)
  let y := if j = 1 || j = 2 then cosNear z else sinNear z
  if x.signBit != flip then y.negate else y

def cos (x : Binary64) : Binary64 :=
  if x.isNaN || x.isInfinite then .nan
  else
  let (j, z) := octant x.abs
  let (j, flip) := if j > 3 then (j - 4, true) else (j, false)
  let flip := if j > 1 then !flip else flip
  let y := if j = 1 || j = 2 then sinNear z else cosNear z
  if flip then y.negate else y

def tanNumerator : List Binary64 :=
  [-1.30936939181383777646e4, 1.15351664838587416140e6, -1.79565251976484877988e7]

def tanDenominator : List Binary64 :=
  [1, 1.36812963470692954678e4, -1.32089234440210967447e6, 2.50083801823357915839e7,
    -5.38695755929454629881e7]

def tan (x : Binary64) : Binary64 :=
  if x.isZero || x.isNaN then x
  else if x.isInfinite then .nan
  else
  let (j, z) := octant x.abs
  let zz := z * z
  let y := if (1.0e-14 : Binary64) < zz then
      z + z * (zz * horner tanNumerator zz / horner tanDenominator zz)
    else z
  let y := if j % 4 ≥ 2 then (-1) / y else y
  if x.signBit then y.negate else y

def atanNumerator : List Binary64 :=
  [-8.750608600031904122785e-01, -1.615753718733365076637e+01, -7.500855792314704667340e+01,
    -1.228866684490136173410e+02, -6.485021904942025371773e+01]

def atanDenominator : List Binary64 :=
  [1, 2.485846490142306297962e+01, 1.650270098316988542046e+02, 4.328810604912902668951e+02,
    4.853903996359136964868e+02, 1.945506571482613964425e+02]

def atanNear (x : Binary64) : Binary64 :=
  let z := x * x
  let z := z * horner atanNumerator z / horner atanDenominator z
  x * z + x

def moreBits : Binary64 := 6.123233995736765886130e-17

def halfMoreBits : Binary64 := 3.061616997868383e-17

def tan3Pi8 : Binary64 := 2.41421356237309504880

def atanPositive (x : Binary64) : Binary64 :=
  if x ≤ 0.66 then atanNear x
  else if tan3Pi8 < x then halfPi - atanNear (1 / x) + moreBits
  else quarterPi + atanNear ((x - 1) / (x + 1)) + halfMoreBits

def atan (x : Binary64) : Binary64 :=
  if x.isZero then x
  else if 0 < x then atanPositive x
  else (atanPositive x.negate).negate

def asin (x : Binary64) : Binary64 :=
  if x.isZero then x else
  let (a, negative) := if x < 0 then (x.negate, true) else (x, false)
  if 1 < a then .nan else
  let temp := (1 - a * a).sqrt
  let temp := if 0.7 < a then halfPi - atanPositive (temp / a) else atanPositive (a / temp)
  if negative then temp.negate else temp

def acos (x : Binary64) : Binary64 := halfPi - asin x

def atan2 (y x : Binary64) : Binary64 :=
  if y.isNaN || x.isNaN then .nan
  else if y.isZero then
    (if !x.signBit then copySign (zero false) y else copySign pi y)
  else if x.isZero then copySign halfPi y
  else if x.isInfinite then
    if !x.signBit then (if y.isInfinite then copySign quarterPi y else copySign (zero false) y)
    else (if y.isInfinite then copySign threeQuarterPi y else copySign pi y)
  else if y.isInfinite then copySign halfPi y
  else
  let q := atan (y / x)
  if x < 0 then (if q ≤ 0 then q + pi else q - pi) else q

end Issuance.Elementary
