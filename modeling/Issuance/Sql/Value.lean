import Issuance.Decimal.Binary
import Issuance.Text.Utf8
/-! # Values of the audit database

`NULL`, a 64-bit integer, a binary64 real, text or bytes. Text reads as a
number as the database reads it; a real is written with fifteen
significant digits, `e+NN` outside 10^−4 to 10^14. -/
namespace Issuance.Sql

open Decimal

inductive Value
  | null
  | int (i : Int)
  | real (r : Binary64)
  | text (b : Bytes)
  | blob (b : Bytes)
  deriving DecidableEq, Repr, Inhabited

def Value.str (s : String) : Value := .text (Bytes.ofString s)

def minInt : Int := -(Nat.pow 2 63 : Nat)

def maxInt : Int := (Nat.pow 2 63 - 1 : Nat)

def fits (i : Int) : Bool := minInt ≤ i && i ≤ maxInt

def wrap (i : Int) : Int :=
  let m := i % (Nat.pow 2 64 : Nat)
  if m > maxInt then m - (Nat.pow 2 64 : Nat) else m

def isSpace (c : Char) : Bool :=
  c = ' ' || c = '\t' || c = '\n' || c.toNat = 11 || c.toNat = 12 || c = '\r'

def digitOf (c : Char) : Nat := c.toNat - 48

def toReal (i : Int) : Binary64 := Binary64.ofInt i

def ten : Binary64 := toReal 10

def tenPow22 : Binary64 := toReal (Nat.pow 10 22 : Nat)

def tenPow308 : Binary64 := Binary64.ofDecimal false 1 308

def timesTen (scale : Binary64) : Nat → Binary64
  | 0 => scale
  | k + 1 => timesTen (scale.mul ten) k

def timesTenPow22 (scale : Binary64) : Nat → Binary64
  | 0 => scale
  | k + 1 => timesTenPow22 (scale.mul tenPow22) k

def significandBound : Nat := (Nat.pow 2 63 - 1 - 9) / 10

/-- How numeric text ended: not a number (`0`), a number with a point or
exponent then more text (`-1`), integer (`1`), point (`2`), exponent (`3`,
or `2` with no point). -/
abbrev Reading := Int

structure Digits where
  significand : Nat := 0
  shift : Int := 0
  count : Nat := 0
  full : Bool := false

def Digits.whole (st : Digits) (c : Char) : Digits :=
  if st.full then { st with shift := st.shift + 1 }
  else
    let s := st.significand * 10 + digitOf c
    { st with significand := s, count := st.count + 1, full := s ≥ significandBound }

def Digits.fraction (st : Digits) (c : Char) : Digits :=
  if st.significand < significandBound then
    { st with significand := st.significand * 10 + digitOf c, shift := st.shift - 1, count := st.count + 1 }
  else st

/-- Powers of ten moved into or out of a significand while that is exact:
up, while the significand stays below 2^63 / 10; down, while it divides by
ten. -/
def reduceExponent (up : Bool) : Nat → Nat → Nat → Nat × Nat
  | 0, s, e => (s, e)
  | fuel + 1, s, e =>
    if e = 0 then (s, e)
    else if up then (if s ≥ (Nat.pow 2 63 - 1) / 10 then (s, e) else reduceExponent up fuel (s * 10) (e - 1))
    else if s % 10 ≠ 0 then (s, e) else reduceExponent up fuel (s / 10) (e - 1)

def scaledValue (negative : Bool) (s : Nat) (e : Int) : Binary64 :=
  if s = 0 then Binary64.zero negative else
  let up := e ≥ 0
  let (s, e) := if up then (s, e.natAbs) else reduceExponent up e.natAbs s e.natAbs
  let sv := toReal (if negative then -(s : Int) else s)
  if e = 0 then sv
  else if e > 307 then
    if e < 342 then
      let scale := timesTen (toReal 1) (e - 308)
      if up then (sv.mul scale).mul tenPow308 else (sv.div scale).div tenPow308
    else if up then .infinite negative else Binary64.zero negative
  else
    let scale := timesTenPow22 (timesTen (toReal 1) (e % 22)) (e / 22)
    if up then sv.mul scale else sv.div scale

def readReal (cs : List Char) : Binary64 × Reading :=
  let cs := cs.dropWhile isSpace
  if cs.isEmpty then (Binary64.zero false, 0) else
  let (negative, cs) := match cs with
    | '-' :: r => (true, r)
    | '+' :: r => (false, r)
    | r => (false, r)
  let whole := cs.takeWhile Char.isDigit
  let st := whole.foldl Digits.whole {}
  let cs := cs.drop whole.length
  let (st, kind, cs) := match cs with
    | '.' :: r =>
      let frac := r.takeWhile Char.isDigit
      (frac.foldl Digits.fraction st, (2 : Int), r.drop frac.length)
    | r => (st, (1 : Int), r)
  let (kind, expValid, expValue, cs) : Int × Bool × Int × List Char := match cs with
    | c :: r =>
      if c = 'e' || c = 'E' then
        let (eneg, r) := match r with
          | '-' :: r' => (true, r')
          | '+' :: r' => (false, r')
          | r' => (false, r')
        let ds := r.takeWhile Char.isDigit
        let v : Nat := ds.foldl (fun acc d => if acc < 10000 then acc * 10 + digitOf d else 10000) 0
        (kind + 1, !ds.isEmpty, (if eneg then -(v : Int) else v), r.drop ds.length)
      else (kind, true, 0, c :: r)
    | [] => (kind, true, 0, [])
  let rest := cs.dropWhile isSpace
  let value := scaledValue negative st.significand (expValue + st.shift)
  let reading : Int :=
    if rest.isEmpty && st.count > 0 && expValid then kind
    else if kind ≥ 2 && (kind = 3 || expValid) && st.count > 0 then -1
    else 0
  (value, reading)

abbrev IntReading := Int

def readInt (cs : List Char) : Int × IntReading :=
  let cs := cs.dropWhile isSpace
  let (negative, cs) := match cs with
    | '-' :: r => (true, r)
    | '+' :: r => (false, r)
    | r => (false, r)
  let zeros := cs.takeWhile (· = '0')
  let cs := cs.drop zeros.length
  let ds := cs.takeWhile Char.isDigit
  let rest := cs.drop ds.length
  let u : Nat := ds.foldl (fun acc d => acc * 10 + digitOf d) 0
  let signed : Int := if negative then -(u : Int) else u
  let rc : Int :=
    if ds.isEmpty && zeros.isEmpty then -1
    else if rest.all isSpace then 0 else 1
  if ds.length < 19 then (signed, rc)
  else
    let c : Ordering := if ds.length > 19 then .gt else Ord.compare u (Nat.pow 2 63)
    match c with
    | .lt => (signed, rc)
    | .gt => (if negative then minInt else maxInt, 2)
    | .eq => (if negative then minInt else maxInt, if negative then rc else 3)

def realToInt (r : Binary64) : Int :=
  match r with
  | .infinite n => if n then minInt else maxInt
  | .nan => 0
  | _ =>
    match r.truncate with
    | some t => if t ≤ minInt then minInt else if t ≥ maxInt then maxInt else t
    | none => 0

def sameAsInt (r : Binary64) : Bool :=
  r.isZero ||
    (match r.truncate with
      | some t => (toReal t).compare r = .eq && -(Int.pow 2 51) ≤ t && t < (Nat.pow 2 51 : Nat)
      | none => false)

def wholeReal? (r : Binary64) : Option Int :=
  let i := realToInt r
  if r.isFinite && (toReal i).compare r = .eq && minInt < i && i < maxInt then some i else none

def byteChars (b : Bytes) : List Char := b.map fun x => Char.ofNat x.toNat

def charBytes (cs : List Char) : Bytes := cs.map fun c => c.toNat.toUInt8

def numberChars : Value → List Char
  | .text b => byteChars b
  | .blob b => byteChars b
  | _ => []

def numericText (tryInt : Bool) (s : Bytes) : Value :=
  let cs := byteChars s
  let (r, rc) := readReal cs
  if rc ≤ 0 then .text s
  else if rc = 1 && sameAsInt r then .int (realToInt r)
  else if rc = 1 && (readInt cs).2 = 0 then .int (readInt cs).1
  else if tryInt then
    match wholeReal? r with
    | some i => .int i
    | none => .real r
  else .real r

def numeric : Value → Value
  | .null => .null
  | .int i => .int i
  | .real r => .real r
  | v =>
    let cs := numberChars v
    let (r, rc) := readReal cs
    let (i, irc) := readInt cs
    if rc ≤ 0 then (if rc = 0 && irc ≤ 1 then .int i else .real r)
    else if rc = 1 && irc = 0 then .int i
    else .real r

def Value.toReal : Value → Binary64
  | .int i => Sql.toReal i
  | .real r => r
  | .null => Binary64.zero false
  | v => (readReal (numberChars v)).1

def Value.toInt : Value → Int
  | .int i => i
  | .real r => realToInt r
  | .null => 0
  | v => (readInt (numberChars v)).1

def Value.truthy : Value → Bool
  | .int i => i ≠ 0
  | .null => false
  | v => !v.toReal.isZero

/-! ## Reals as text -/

def rounder : Binary64 := (Binary64.ofDecimal false 5 (-5)).mul (Binary64.ofDecimal false 1 (-10))

def digitValue (r : Binary64) : Nat := ((r.truncate).getD 0).toNat

/-- Take up to `n` digits off a real in `[0, 10)`: each is the whole part,
and the rest is multiplied by ten; after `budget` digits only zeros come. -/
def takeDigits : Nat → Binary64 → Nat → List Char × Binary64 × Nat
  | 0, r, budget => ([], r, budget)
  | n + 1, r, budget =>
    if budget = 0 then
      let (ds, r', b') := takeDigits n r 0
      ('0' :: ds, r', b')
    else
      let d := digitValue r
      let r' := (r.sub (Sql.toReal d)).mul ten
      let (ds, r'', b') := takeDigits n r' (budget - 1)
      (Char.ofNat (48 + d) :: ds, r'', b')

def scaleUp (r step : Binary64) (inc : Int) : Nat → Binary64 × Int → Binary64 × Int
  | 0, acc => acc
  | k + 1, (scale, e) =>
    if e ≤ 350 && r.compare (step.mul scale) != .lt then scaleUp r step inc k (scale.mul step, e + inc)
    else (scale, e)

def scaleDown (bound step : Binary64) (dec : Int) : Nat → Binary64 × Int → Binary64 × Int
  | 0, acc => acc
  | k + 1, (r, e) =>
    if r.compare bound = .lt then scaleDown bound step dec k (r.mul step, e - dec) else (r, e)

def exponentText (e : Int) : String :=
  let a := e.natAbs
  (if e < 0 then "-" else "+") ++ (if a < 10 then "0" else "") ++ toString a

def realText (x : Binary64) : String :=
  match x with
  | .nan => "NaN"
  | _ =>
  let negative := x.isNegative
  let v := if negative then x.negate else x
  let sign := if negative then "-" else ""
  let precision : Int := 14
  let (v, e, infinite) :=
    if v.compare (Binary64.zero false) = .gt then
      let (scale, e) := scaleUp v (Binary64.ofDecimal false 1 100) 100 8 (toReal 1, 0)
      let (scale, e) := scaleUp v (Binary64.ofDecimal false 1 10) 10 40 (scale, e)
      let (scale, e) := scaleUp v ten 1 40 (scale, e)
      let v := v.div scale
      let (v, e) := scaleDown (Binary64.ofDecimal false 1 (-8)) (Binary64.ofDecimal false 1 8) 8 50 (v, e)
      let (v, e) := scaleDown (toReal 1) ten 1 20 (v, e)
      (v, e, e > 350)
    else (v, 0, false)
  if infinite then sign ++ "Inf" else
  let v := v.add rounder
  let (v, e) := if v.compare ten != .lt then (v.mul (Binary64.ofDecimal false 1 (-1)), e + 1) else (v, e)
  let expForm := e < -4 || e > precision
  let (e2, fracDigits) : Int × Int := if expForm then (0, precision) else (e, precision - e)
  let (lead, v, budget) :=
    if e2 < 0 then (['0'], v, 26)
    else takeDigits (e2.toNat + 1) v 26
  let zeros := if e2 < -1 then List.replicate ((-e2 - 1).toNat) '0' else []
  let remaining := if e2 < -1 then fracDigits - (-e2 - 1) else fracDigits
  let (tail, _, _) := takeDigits remaining.toNat v budget
  let frac := (zeros ++ tail).reverse.dropWhile (· = '0') |>.reverse
  let frac := if frac.isEmpty then ['0'] else frac
  sign ++ String.ofList lead ++ "." ++ String.ofList frac ++ (if expForm then "e" ++ exponentText e else "")

def Value.textBytes : Value → Bytes
  | .null => []
  | .int i => Bytes.ofString (toString i)
  | .real r => Bytes.ofString (realText r)
  | .text b => b
  | .blob b => b

/-! ## Order -/

inductive Collation
  | binary
  | nocase
  | rtrim
  deriving DecidableEq, Repr, Inhabited

def foldAscii (c : Char) : Char := if 'A' ≤ c && c ≤ 'Z' then Char.ofNat (c.toNat + 32) else c

def compareLists [Ord α] : List α → List α → Ordering
  | [], [] => .eq
  | [], _ :: _ => .lt
  | _ :: _, [] => .gt
  | a :: as, b :: bs =>
    match Ord.compare a b with
    | .eq => compareLists as bs
    | o => o

def foldByte (b : UInt8) : UInt8 := if 65 ≤ b && b ≤ 90 then b + 32 else b

def Collation.compare (c : Collation) (a b : Bytes) : Ordering :=
  match c with
  | .binary => compareLists (a.map UInt8.toNat) (b.map UInt8.toNat)
  | .nocase => compareLists (a.map fun x => (foldByte x).toNat) (b.map fun x => (foldByte x).toNat)
  | .rtrim =>
    let cut := fun (s : Bytes) => (s.reverse.dropWhile (· = 32)).reverse.map UInt8.toNat
    compareLists (cut a) (cut b)

def Value.rank : Value → Nat
  | .null => 0
  | .int _ | .real _ => 1
  | .text _ => 2
  | .blob _ => 3

def compareIntReal (i : Int) (r : Binary64) : Ordering :=
  match r.signedRatio with
  | some (x, d) => Ord.compare (i * d) x
  | none => (toReal i).compare r

def Value.compare (c : Collation) (a b : Value) : Ordering :=
  match a, b with
  | .null, .null => .eq
  | .int x, .int y => Ord.compare x y
  | .int x, .real y => compareIntReal x y
  | .real x, .int y => (compareIntReal y x).swap
  | .real x, .real y => x.compare y
  | .text x, .text y => c.compare x y
  | .blob x, .blob y => compareLists (x.map UInt8.toNat) (y.map UInt8.toNat)
  | _, _ => Ord.compare a.rank b.rank

/-! ## Affinity -/

inductive Affinity
  | none
  | blob
  | text
  | numeric
  | integer
  | real
  deriving DecidableEq, Repr, Inhabited

def Affinity.isNumeric : Affinity → Bool
  | .numeric | .integer | .real => true
  | _ => false

/-- The affinity of a declared type, by the words it contains: `INT`, then
`CHAR`, `CLOB` or `TEXT`, then `BLOB` or none, then `REAL`, `FLOA` or
`DOUB`, else numeric. -/
def Affinity.ofType (t : String) : Affinity :=
  let u := t.toUpper
  let has := fun (w : String) => (u.splitOn w).length > 1
  if has "INT" then .integer
  else if has "CHAR" || has "CLOB" || has "TEXT" then .text
  else if has "BLOB" || u.trimAscii.isEmpty then .blob
  else if has "REAL" || has "FLOA" || has "DOUB" then .real
  else .numeric

def Affinity.store (a : Affinity) (v : Value) : Value :=
  match a, v with
  | .text, .int _ | .text, .real _ => .text v.textBytes
  | .numeric, .text s | .integer, .text s | .real, .text s =>
    match numericText true s with
    | .int i => if a = .real then .real (Sql.toReal i) else .int i
    | w => w
  | .numeric, .real r | .integer, .real r =>
    match wholeReal? r with
    | some i => .int i
    | Option.none => v
  | .real, .int i => .real (Sql.toReal i)
  | _, _ => v

theorem Affinity.store_null (a : Affinity) : a.store .null = .null := by
  cases a <;> rfl

end Issuance.Sql
