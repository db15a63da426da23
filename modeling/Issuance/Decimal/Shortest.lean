import Issuance.Decimal.Binary
/-! # The shortest decimal of a binary64 value

The decimal with fewest significant digits inside the interval that reads
back as the value, the nearer of two; one to seventeen digits are tried. -/
namespace Issuance.Decimal

structure Dec where
  digits : Nat
  exp : Int
  deriving DecidableEq, Repr

def cmpScaled (a : Nat) (i : Int) (n : Nat) (j : Int) : Ordering :=
  compare (a * Nat.pow 10 i.toNat * Nat.pow 2 (-j).toNat) (n * Nat.pow 2 j.toNat * Nat.pow 10 (-i).toNat)

/-- Whether a decimal lies among the reals that round to `m · 2^q`; the gap
below is half as wide when `m` is the least significand of its exponent. -/
def readsBack (m : Nat) (q : Int) (d : Dec) : Bool :=
  let narrow := m = Nat.pow 2 52 && q > minExponent
  let lo := if narrow then 4 * m - 1 else 4 * m - 2
  let hi := 4 * m + 2
  let incl := m % 2 == 0
  let cl := cmpScaled d.digits d.exp lo (q - 2)
  let ch := cmpScaled d.digits d.exp hi (q - 2)
  (cl == .gt || (incl && cl == .eq)) && (ch == .lt || (incl && ch == .eq))

def belowPow10 (m : Nat) (q : Int) (k : Int) : Bool :=
  cmpScaled 1 k m q == .gt

def decimalScale (m : Nat) (q : Int) : Int :=
  let guess : Int := ((Nat.log2 m : Int) + q) * 30103 / 100000
  let up := (List.range 6).find? (fun (i : Nat) => belowPow10 m q (guess + (i : Int)))
  let k := guess + ((up.getD 5 : Nat) : Int)
  let down := (List.range 6).find? (fun (i : Nat) => !belowPow10 m q (k - (i : Int) - 1))
  k - ((down.getD 5 : Nat) : Int)

def floorOnGrid (m : Nat) (q g : Int) : Nat :=
  (m * Nat.pow 2 q.toNat * Nat.pow 10 (-g).toNat) / (Nat.pow 2 (-q).toNat * Nat.pow 10 g.toNat)

def Dec.trim (d : Dec) : Dec :=
  let n := (List.range (digitCount d.digits)).find? (fun i => d.digits / Nat.pow 10 (i + 1) * Nat.pow 10 (i + 1) ≠ d.digits)
  let z := n.getD 0
  ⟨d.digits / Nat.pow 10 z, d.exp + z⟩

def onGrid (m : Nat) (q k : Int) (n : Nat) : Option Dec :=
  let g := k - n
  let lo := floorOnGrid m q g
  let a : Dec := ⟨lo, g⟩
  let b : Dec := ⟨lo + 1, g⟩
  match readsBack m q a, readsBack m q b with
  | true, true =>
    -- twice the value against the sum of the two neighbours
    match cmpScaled (2 * lo + 1) g (2 * m) q with
    | .gt => some a
    | .lt => some b
    | .eq => some (if lo % 2 = 0 then a else b)
  | true, false => some a
  | false, true => some b
  | false, false => none

def shortest (m : Nat) (q : Int) : Dec :=
  if m = 0 then ⟨0, 0⟩ else
  let k := decimalScale m q
  match (List.range 17).findSome? (fun i => onGrid m q k (i + 1)) with
  | some d => d.trim
  | none => if q ≥ 0 then ⟨m * Nat.pow 2 q.toNat, 0⟩ else ⟨m * Nat.pow 5 (-q).toNat, q⟩

structure Layout where
  sciBelow : Int
  sciFrom : Int
  mark : String
  expWidth : Nat
  nanText : String
  infText : String
  negInfText : String

def digitText (n : Nat) : String := if n = 0 then "" else String.ofList (Nat.toDigits 10 n)

def padded (w n : Nat) : String :=
  let s := String.ofList (Nat.toDigits 10 n)
  String.ofList (List.replicate (w - s.length) '0') ++ s

def Dec.render (l : Layout) (d : Dec) : String :=
  let ds := digitText d.digits
  let nd := ds.length
  let dp : Int := nd + d.exp
  let lead := dp - 1
  if nd = 0 then "0" else
  if lead < l.sciBelow || lead ≥ l.sciFrom then
    let cs := ds.toList
    let frac := String.ofList cs.tail
    let e := lead
    String.ofList (cs.take 1) ++ (if frac.isEmpty then "" else "." ++ frac) ++ l.mark ++
      (if e < 0 then "-" else "+") ++ padded l.expWidth e.natAbs
  else
    let cs := ds.toList
    if dp ≤ 0 then
      "0." ++ String.ofList (List.replicate dp.natAbs '0') ++ ds
    else
      let whole := String.ofList (cs.take dp.toNat) ++ String.ofList (List.replicate (dp.toNat - nd) '0')
      let frac := String.ofList (cs.drop dp.toNat)
      whole ++ (if frac.isEmpty then "" else "." ++ frac)

def Binary64.render (l : Layout) : Binary64 → String
  | .nan => l.nanText
  | .infinite n => if n then l.negInfText else l.infText
  | .finite n m q => (if n then "-" else "") ++ (shortest m q).render l

end Issuance.Decimal
