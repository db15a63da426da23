import Issuance.Decimal.Binary
/-! # Reading spans of time

A sign and numbers with units (`ns` to `h`), counted in signed 64-bit
nanoseconds: whole parts exactly, fractions in binary64. -/
namespace Issuance.Text

def unitNanos : String → Option Nat
  | "ns" => some 1
  | "us" | "µs" | "μs" => some 1000
  | "ms" => some 1000000
  | "s" => some 1000000000
  | "m" => some 60000000000
  | "h" => some 3600000000000
  | _ => none

def spanLimit : Nat := Nat.pow 2 63

def leadingDigits (cs : List Char) : Nat × Nat × List Char :=
  let ds := cs.takeWhile Char.isDigit
  (ds.foldl (fun n c => n * 10 + (c.toNat - 48)) 0, ds.length, cs.drop ds.length)

def fractionDigits (ds : List Char) : Nat × Nat :=
  let step := fun (acc : Nat × Nat × Bool) (c : Char) =>
    let (x, k, full) := acc
    if full then acc
    else if x > (Nat.pow 2 63 - 1) / 10 then (x, k, true)
    else
      let y := x * 10 + (c.toNat - 48)
      if y > Nat.pow 2 63 then (x, k, true) else (y, k + 1, false)
  let (x, k, _) := ds.foldl step (0, 0, false)
  (x, k)

/-- The nanoseconds of a fraction `f / 10^k` of a unit of `u` nanoseconds,
counted in binary64 arithmetic and cut to whole nanoseconds. -/
def fractionNanos (f k u : Nat) : Nat :=
  let share := (Decimal.Binary64.ofInt u).div (Decimal.Binary64.ofInt (Nat.pow 10 k))
  match ((Decimal.Binary64.ofInt f).mul share).truncate with
  | some n => n.toNat
  | none => 0

/-- A span's terms added up; none when one is malformed or the sum passes
the limit. A fuel of the text's length suffices. -/
def spanTerms : Nat → Nat → List Char → Option Nat
  | _, total, [] => some total
  | 0, _, _ :: _ => none
  | fuel + 1, total, c :: cs =>
    if !(c.isDigit || c = '.') then none else
    let (whole, wholeLen, afterWhole) := leadingDigits (c :: cs)
    let (hasPoint, frac, fracLen, rest) := match afterWhole with
      | '.' :: r =>
        let ds := r.takeWhile Char.isDigit
        let (f, k) := fractionDigits ds
        (true, (f, k), ds.length, r.drop ds.length)
      | r => (false, (0, 0), 0, r)
    if wholeLen = 0 && fracLen = 0 then none else
    let unitText := rest.takeWhile fun x => !(x.isDigit || x = '.')
    if unitText.isEmpty then none else
    match unitNanos (String.ofList unitText) with
    | none => none
    | some u =>
      let v := whole * u + (if hasPoint && frac.1 > 0 then fractionNanos frac.1 frac.2 u else 0)
      if whole * u > spanLimit || v > spanLimit || total + v > spanLimit then none
      else spanTerms fuel (total + v) (rest.drop unitText.length)

/-- A span in nanoseconds read from text, or none when it is malformed or
out of range. -/
def parseDuration (s : String) : Option Int :=
  let (neg, body) := match s.toList with
    | '-' :: r => (true, r)
    | '+' :: r => (false, r)
    | r => (false, r)
  if body = ['0'] then some 0 else
  if body.isEmpty then none else
  match spanTerms body.length 0 body with
  | none => none
  | some n =>
    if neg then some (-(n : Int))
    else if n ≥ spanLimit then none else some n

end Issuance.Text
