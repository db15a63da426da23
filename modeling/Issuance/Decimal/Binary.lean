/-! # Binary64 values

A binary64 value is a signed m · 2^q with at most 53 significant bits and
q ≥ −1074, an infinity, or not a number. A decimal reads as the nearest one,
ties to even, beyond the largest finite value an infinity. -/
namespace Issuance.Decimal

inductive Binary64 where
  | finite (negative : Bool) (m : Nat) (q : Int)
  | infinite (negative : Bool)
  | nan
  deriving DecidableEq, Repr

def minExponent : Int := -1074

def maxExponent : Int := 971

def roundHalfEven (a b : Nat) : Nat :=
  let d := a / b
  let r := a % b
  if 2 * r < b then d else if 2 * r > b then d + 1 else if d % 2 = 0 then d else d + 1

def belowPow2 (num den : Nat) (k : Int) : Bool :=
  num * Nat.pow 2 (-k).toNat < den * Nat.pow 2 k.toNat

def binaryScale (num den : Nat) : Int :=
  let k : Int := (Nat.log2 num : Int) - (Nat.log2 den : Int)
  if belowPow2 num den k then k - 1 else k

def nearest (negative : Bool) (num den : Nat) : Binary64 :=
  if num = 0 then .finite negative 0 minExponent else
  let q := max (binaryScale num den - 52) minExponent
  let m := roundHalfEven (num * Nat.pow 2 (-q).toNat) (den * Nat.pow 2 q.toNat)
  let (m, q) := if m = Nat.pow 2 53 then (Nat.pow 2 52, q + 1) else (m, q)
  if q > maxExponent then .infinite negative else .finite negative m q

def digitCount (n : Nat) : Nat := if n = 0 then 0 else (Nat.toDigits 10 n).length

def Binary64.ofDecimal (negative : Bool) (digits : Nat) (exp : Int) : Binary64 :=
  if digits = 0 then .finite negative 0 minExponent
  else if exp > 400 then .infinite negative
  else if exp + digitCount digits < -400 then .finite negative 0 minExponent
  else nearest negative (digits * Nat.pow 10 exp.toNat) (Nat.pow 10 (-exp).toNat)

def Binary64.ofInt (n : Int) : Binary64 := Binary64.ofDecimal (n < 0) n.natAbs 0

namespace Binary64

def isZero : Binary64 → Bool
  | .finite _ m _ => m = 0
  | _ => false

def isNegative : Binary64 → Bool
  | .finite n m _ => n && m ≠ 0
  | .infinite n => n
  | .nan => false

def exceedsOne : Binary64 → Bool
  | .finite n m q => !n && m * Nat.pow 2 q.toNat > Nat.pow 2 (-q).toNat
  | .infinite n => !n
  | .nan => false

def isFinite : Binary64 → Bool
  | .finite .. => true
  | _ => false

def negate : Binary64 → Binary64
  | .finite n m q => .finite (!n) m q
  | .infinite n => .infinite (!n)
  | .nan => .nan

def ratio : Binary64 → Option (Bool × Nat × Nat)
  | .finite n m q => some (n, m * Nat.pow 2 q.toNat, Nat.pow 2 (-q).toNat)
  | _ => none

def zero (negative : Bool) : Binary64 := .finite negative 0 minExponent

def mul (a b : Binary64) : Binary64 :=
  match a, b with
  | .nan, _ | _, .nan => .nan
  | .infinite n1, .infinite n2 => .infinite (n1 != n2)
  | .infinite n1, .finite n2 m _ | .finite n2 m _, .infinite n1 => if m = 0 then .nan else .infinite (n1 != n2)
  | .finite .., .finite .. =>
    match a.ratio, b.ratio with
    | some (n1, p1, d1), some (n2, p2, d2) => nearest (n1 != n2) (p1 * p2) (d1 * d2)
    | _, _ => .nan

def div (a b : Binary64) : Binary64 :=
  match a, b with
  | .nan, _ | _, .nan => .nan
  | .infinite _, .infinite _ => .nan
  | .infinite n1, .finite n2 _ _ => .infinite (n1 != n2)
  | .finite n1 _ _, .infinite n2 => zero (n1 != n2)
  | .finite .., .finite .. =>
    match a.ratio, b.ratio with
    | some (n1, p1, d1), some (n2, p2, d2) =>
      if p2 = 0 then (if p1 = 0 then .nan else .infinite (n1 != n2))
      else nearest (n1 != n2) (p1 * d2) (d1 * p2)
    | _, _ => .nan

def signedRatio (a : Binary64) : Option (Int × Nat) :=
  a.ratio.map fun (n, p, d) => (if n then -(p : Int) else p, d)

def add (a b : Binary64) : Binary64 :=
  match a, b with
  | .nan, _ | _, .nan => .nan
  | .infinite n1, .infinite n2 => if n1 = n2 then .infinite n1 else .nan
  | .infinite n, .finite .. | .finite .., .infinite n => .infinite n
  | .finite n1 _ _, .finite n2 _ _ =>
    match a.signedRatio, b.signedRatio with
    | some (x1, d1), some (x2, d2) =>
      let x := x1 * d2 + x2 * d1
      if x = 0 then zero (n1 && n2) else nearest (x < 0) x.natAbs (d1 * d2)
    | _, _ => .nan

def sub (a b : Binary64) : Binary64 := a.add b.negate

def compare (a b : Binary64) : Ordering :=
  match a, b with
  | .infinite n1, .infinite n2 => if n1 = n2 then .eq else if n1 then .lt else .gt
  | .infinite n, _ => if n then .lt else .gt
  | _, .infinite n => if n then .gt else .lt
  | _, _ =>
    match a.signedRatio, b.signedRatio with
    | some (x1, d1), some (x2, d2) => Ord.compare (x1 * d2) (x2 * d1)
    | _, _ => .eq

def isNaN : Binary64 → Bool
  | .nan => true
  | _ => false

end Binary64

def digitsValue (base : Nat) (cs : List Char) : Option Nat :=
  cs.foldlM (fun acc c =>
    let d := if c.isDigit then c.toNat - 48
      else if 'a' ≤ c && c ≤ 'f' then c.toNat - 87
      else if 'A' ≤ c && c ≤ 'F' then c.toNat - 55 else 99
    if d < base then some (acc * base + d) else none) 0

def decimalParts (cs : List Char) : Option (Bool × Nat × Int) :=
  let (neg, cs) := match cs with
    | '-' :: r => (true, r)
    | '+' :: r => (false, r)
    | r => (false, r)
  let whole := cs.takeWhile Char.isDigit
  let cs := cs.dropWhile Char.isDigit
  let (frac, cs) := match cs with
    | '.' :: r => (r.takeWhile Char.isDigit, r.dropWhile Char.isDigit)
    | r => ([], r)
  if whole.isEmpty && frac.isEmpty then none else
  let exp : Option Int := match cs with
    | [] => some 0
    | c :: r =>
      if c = 'e' || c = 'E' then
        let (eneg, ds) := match r with
          | '-' :: d => (true, d)
          | '+' :: d => (false, d)
          | d => (false, d)
        if ds.isEmpty || !ds.all Char.isDigit then none
        else (digitsValue 10 ds).map fun n => if eneg then -(n : Int) else n
      else none
  exp.bind fun e => (digitsValue 10 (whole ++ frac)).map fun m => (neg, m, e - frac.length)

def Binary64.ofText? (s : String) : Option Binary64 :=
  (decimalParts s.toList).map fun (neg, m, e) => Binary64.ofDecimal neg m e

def Binary64.truncate : Binary64 → Option Int
  | .finite n m q =>
    let w : Nat := if q ≥ 0 then m * Nat.pow 2 q.toNat else m / Nat.pow 2 (-q).toNat
    some (if n then -(w : Int) else w)
  | _ => none

def Binary64.atMostPow2 (k : Nat) : Binary64 → Bool
  | .finite n m q => n || m * Nat.pow 2 q.toNat ≤ Nat.pow 2 k * Nat.pow 2 (-q).toNat
  | .infinite n => n
  | .nan => false

def Binary64.toInt64Word (f : Binary64) : Int :=
  match f.truncate with
  | some w => if -(Int.pow 2 63) ≤ w ∧ w < Int.pow 2 63 then w else -(Int.pow 2 63)
  | none => -(Int.pow 2 63)

/-- The unsigned 64-bit word a value converts to: below 2^63 by the signed
conversion (negatives wrap), from 2^63 the excess converted with the top bit
set. -/
def Binary64.toUInt64Word (f : Binary64) : Nat :=
  match f.truncate with
  | some w =>
    if w < Int.pow 2 63 then (if -(Int.pow 2 63) ≤ w then (w % Int.pow 2 64).toNat else Nat.pow 2 63)
    else if w < Int.pow 2 64 then w.toNat else Nat.pow 2 63
  | none => Nat.pow 2 63

theorem roundHalfEven_le (a b : Nat) : a / b ≤ roundHalfEven a b := by
  simp only [roundHalfEven]
  split <;> (try split) <;> (try split) <;> omega

end Issuance.Decimal
