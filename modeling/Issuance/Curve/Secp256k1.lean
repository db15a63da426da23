import Issuance.Text.Hex
/-! # The secp256k1 curve

Affine points of y² = x³ + 7 over p = 2^256 − 2^32 − 977 and infinity, and
multiples of the generator of prime order n; field quotients by the
(p − 2)-th power. -/
namespace Issuance.Curve.Secp256k1

def p : Nat := Nat.pow 2 256 - Nat.pow 2 32 - 977

def order : Nat := 0xFFFFFFFFFFFFFFFFFFFFFFFFFFFFFFFEBAAEDCE6AF48A03BBFD25E8CD0364141

inductive Point where
  | infinity
  | affine (x y : Nat)
  deriving DecidableEq, Repr

def generator : Point :=
  .affine 0x79BE667EF9DCBBAC55A06295CE870B07029BFCDB2DCE28D959F2815B16F81798
    0x483ADA7726A3C4655DA4FBFC0E1108A8FD17B448A68554199C47D08FFB10D4B8

def powMod (m b e : Nat) : Nat :=
  if h : e = 0 then 1 % m else
    let r := powMod m (b * b % m) (e / 2)
    if e % 2 = 1 then r * b % m else r
termination_by e
decreasing_by exact Nat.div_lt_self (Nat.pos_of_ne_zero h) (by decide)

def inv (a : Nat) : Nat := powMod p a (p - 2)

def sub (a b : Nat) : Nat := (a + p - b % p) % p

def double : Point → Point
  | .infinity => .infinity
  | .affine x y =>
    if y = 0 then .infinity else
    let l := 3 * x * x % p * inv (2 * y % p) % p
    let x3 := sub (l * l % p) (2 * x % p)
    .affine x3 (sub (l * sub x x3 % p) y)

def add : Point → Point → Point
  | .infinity, q => q
  | q, .infinity => q
  | .affine x1 y1, .affine x2 y2 =>
    if x1 = x2 then
      if (y1 + y2) % p = 0 then .infinity else double (.affine x1 y1)
    else
      let l := sub y2 y1 * inv (sub x2 x1) % p
      let x3 := sub (sub (l * l % p) x1) x2
      .affine x3 (sub (l * sub x1 x3 % p) y1)

def bitsHigh (k : Nat) : List Bool := (Nat.toDigits 2 k).map (· = '1')

def mul (k : Nat) (q : Point) : Point :=
  if k = 0 then .infinity else
  (bitsHigh k).foldl (fun r b => let r := double r; if b then add r q else r) .infinity

theorem add_infinity_left (q : Point) : add .infinity q = q := by
  cases q <;> rfl

end Issuance.Curve.Secp256k1
