import Issuance.Amount
/-! # Fractions in 256-bit words

`mulDiv` as the service computes it: the operands widened to 256 bits, a
library routine forms `x * y / d` exactly, flagging a quotient of 256 bits
or more, and the quotient must fit back in 64 bits. -/
namespace Issuance.Amount

def widen (v : BitVec 64) : BitVec 256 := v.setWidth 256

/-- The library's `IsUint64`: the three upper 64-bit limbs are zero. -/
def isUint64 (z : BitVec 256) : Bool := z >>> 64 == 0

/-- `⌊v * n / d⌋` over words, `mulDivOverflow` standing for the library's
`MulDivOverflow`; the result is the low limb (`Uint64`). -/
def wideMulDiv (mulDivOverflow : BitVec 256 → BitVec 256 → BitVec 256 → BitVec 256 × Bool)
    (v n d : BitVec 64) : Except Fault (BitVec 64) :=
  if d = 0 then .error (Fault.raise .arithmeticOverflow "division by zero")
  else
    let r := mulDivOverflow (widen v) (widen n) (widen d)
    if r.2 || !isUint64 r.1 then
      .error (Fault.raise .arithmeticOverflow
        (toString v.toNat ++ "*" ++ toString n.toNat ++ "/" ++ toString d.toNat ++ " exceeds 64 bits"))
    else .ok (r.1.setWidth 64)

end Issuance.Amount
