import Issuance.Sql.Value
import Issuance.Sql.Chars
/-! # Formatting in the manner of printf

The database's own printf flags, width, precision and conversions; an
unknown one ends the output. Reals round by half a unit in the last place
and take digits in binary64. Widths count bytes, or characters with `!`. -/
namespace Issuance.Sql

open Decimal

def toWord (i : Int) : Nat := (if i < 0 then i + (Nat.pow 2 64 : Nat) else i).toNat

def ofWord (w : Nat) : Int :=
  let w : Nat := w % Nat.pow 2 64
  if w ≥ Nat.pow 2 63 then (w : Int) - (Nat.pow 2 64 : Nat) else w

structure Spec where
  leftJustify : Bool := false
  plus : Bool := false
  blank : Bool := false
  alternate : Bool := false
  altform2 : Bool := false
  zeroPad : Bool := false
  comma : Bool := false
  width : Nat := 0
  precision : Option Nat := none
  deriving Repr, Inhabited

inductive FloatStyle
  | fixed
  | exponent (upper : Bool)
  | general (upper : Bool)
  deriving DecidableEq, Repr

def binaryExponent : Binary64 → Int
  | .finite _ m q => if m ≥ Nat.pow 2 52 then 52 + q else -1023
  | _ => 1024

def rounderFor (precision : Nat) : Binary64 :=
  let idx := precision % 4096
  let base := Binary64.ofDecimal false 5 (-(((idx % 10 : Nat) : Int) + 1))
  (List.range (idx / 10)).foldl (fun r _ => r.mul (Binary64.ofDecimal false 1 (-10))) base

def signPrefix (negative : Bool) (s : Spec) : String :=
  if negative then "-" else if s.plus then "+" else if s.blank then " " else ""

def padTo (s : Spec) (text : String) : String :=
  let n := text.length
  if n ≥ s.width then text
  else
    let fill := String.ofList (List.replicate (s.width - n) ' ')
    if s.leftJustify then text ++ fill else fill ++ text

def normalize (v : Binary64) : Binary64 × Int × Bool :=
  if v.compare (Binary64.zero false) = .gt then
    let (scale, e) := scaleUp v (Binary64.ofDecimal false 1 100) 100 8 (toReal 1, 0)
    let (scale, e) := scaleUp v (Binary64.ofDecimal false 1 10) 10 40 (scale, e)
    let (scale, e) := scaleUp v ten 1 40 (scale, e)
    let v := v.div scale
    let (v, e) := scaleDown (Binary64.ofDecimal false 1 (-8)) (Binary64.ofDecimal false 1 8) 8 50 (v, e)
    let (v, e) := scaleDown (toReal 1) ten 1 20 (v, e)
    (v, e, e > 350)
  else (v, 0, false)

def floatBody (style : FloatStyle) (s : Spec) (r : Binary64) : String :=
  match r with
  | .nan => "NaN"
  | _ =>
  let negative := r.isNegative
  let pre := signPrefix negative s
  let v := if negative then r.negate else r
  let precision := s.precision.getD 6
  let precision := match style with
    | .general _ => if precision > 0 then precision - 1 else precision
    | _ => precision
  let rounder := rounderFor precision
  let v : Binary64 := match style with
    | .fixed =>
      let ex := binaryExponent v
      let rounder := if (precision : Int) + ex.tdiv 3 < 15 then rounder.add (v.mul (Binary64.ofDecimal false 3 (-16)))
        else rounder
      v.add rounder
    | _ => v
  let (v, e, tooLarge) := normalize v
  if tooLarge || !v.isFinite then pre ++ "Inf" else
  let (v, e) : Binary64 × Int := match style with
    | .fixed => (v, e)
    | _ =>
      let v := v.add rounder
      if v.compare ten != Ordering.lt then (v.mul (Binary64.ofDecimal false 1 (-1)), e + 1) else (v, e)
  let (useExp, precision, rtz) : Bool × Int × Bool := match style with
    | .general _ =>
      if e < -4 || e > (precision : Int) then (true, precision, !s.alternate)
      else (false, (precision : Int) - e, !s.alternate)
    | .exponent _ => (true, precision, s.altform2)
    | .fixed => (false, precision, s.altform2)
  let e2 : Int := if useExp then 0 else e
  let dp := precision > 0 || s.alternate || s.altform2
  let budget := if s.altform2 then 26 else 16
  let (lead, v, budget) := if e2 < 0 then (['0'], v, budget) else takeDigits (e2.toNat + 1) v budget
  let zeroCount : Int := if e2 < -1 then min (-e2 - 1) (max precision 0) else 0
  let remaining : Int := precision - zeroCount
  let (tail, _, _) := takeDigits remaining.toNat v budget
  let frac := List.replicate zeroCount.toNat '0' ++ tail
  let body := lead ++ (if dp then '.' :: frac else [])
  let body :=
    if rtz && dp then
      let trimmed := (body.reverse.dropWhile (· = '0')).reverse
      match trimmed.getLast? with
      | some '.' => if s.altform2 then trimmed ++ ['0'] else trimmed.dropLast
      | _ => trimmed
    else body
  let suffix :=
    if useExp then
      let upper := match style with
        | .exponent u | .general u => u
        | .fixed => false
      let a := e.natAbs
      String.ofList [if upper then 'E' else 'e'] ++ (if e < 0 then "-" else "+") ++
        (if a ≥ 100 then toString (a / 100) else "") ++ toString (a % 100 / 10) ++ toString (a % 10)
    else ""
  let text := String.ofList body ++ suffix
  if s.zeroPad && !s.leftJustify && pre.length + text.length < s.width then
    pre ++ String.ofList (List.replicate (s.width - pre.length - text.length) '0') ++ text
  else pre ++ text

def formatFloat (style : FloatStyle) (s : Spec) (r : Binary64) : String := padTo s (floatBody style s r)

def digitsIn (base : Nat) (digits : List Char) (n : Nat) : List Char :=
  if base < 2 then ['0'] else (Nat.toDigits base n).map fun c =>
    let d := if c.isDigit then c.toNat - 48 else c.toNat - 87
    digits.getD d '0'

def withThousands (ds : List Char) : List Char :=
  let rev := ds.reverse
  let rec go : Nat → List Char → List Char
    | _, [] => []
    | k, c :: rest => (if k > 0 && k % 3 = 0 then [',', c] else [c]) ++ go (k + 1) rest
  (go 0 rev).reverse

def formatInteger (s : Spec) (base : Nat) (upper : Bool) (negative : Bool) (magnitude : Nat)
    (altPrefix : String) (grouping : Bool) : String :=
  let digits := if upper then "0123456789ABCDEF".toList else "0123456789abcdef".toList
  let pre := signPrefix negative s
  let alternate := s.alternate && magnitude ≠ 0
  let precision := s.precision.getD 0
  let precision :=
    if s.zeroPad && (precision : Int) < (s.width : Int) - (if pre.isEmpty then 0 else 1) then
      s.width - (if pre.isEmpty then 0 else 1)
    else precision
  let ds := digitsIn base digits magnitude
  let ds := List.replicate (precision - ds.length) '0' ++ ds
  let ds := if grouping && s.comma then withThousands ds else ds
  padTo s (pre ++ (if alternate then altPrefix else "") ++ String.ofList ds)

inductive Argument
  | value (v : Value)
  | missing
  deriving Inhabited

def padText (s : Spec) (text : Bytes) : Bytes :=
  let width := if s.altform2 && s.width > 0 then s.width + (text.filter isContinuation).length else s.width
  let n := text.length
  if n ≥ width then text
  else
    let fill := List.replicate (width - n) (32 : UInt8)
    if s.leftJustify then text ++ fill else fill ++ text

def repeatChar (s : Spec) (one : Bytes) : Bytes :=
  let n := s.precision.getD 1
  let (lead, w, count) : Bytes × Int × Nat :=
    if n > 1 then
      let w1 : Int := (s.width : Int) - ((n - 1 : Nat) : Int)
      if w1 > 1 && !s.leftJustify then (List.replicate (w1 - 1).toNat 32, 0, n) else ([], w1, n)
    else ([], s.width, 1)
  let cont : Int := (one.filter isContinuation).length
  let w := (if w > 0 then w + cont else w) - one.length
  let body := (List.replicate count one).flatten
  let fill := List.replicate w.toNat (32 : UInt8)
  lead ++ (if s.leftJustify then body ++ fill else fill ++ body)

def ordinalSuffix (n : Nat) : String :=
  if n % 100 ≥ 11 && n % 100 ≤ 13 then "th"
  else match n % 10 with
    | 1 => "st"
    | 2 => "nd"
    | 3 => "rd"
    | _ => "th"

structure Printing where
  out : Bytes := []
  args : List Value

namespace Printing

def int (p : Printing) : Int × Printing :=
  match p.args with
  | v :: rest => (v.toInt, { p with args := rest })
  | [] => (0, p)

def real (p : Printing) : Binary64 × Printing :=
  match p.args with
  | v :: rest => (v.toReal, { p with args := rest })
  | [] => (Binary64.zero false, p)

def text (p : Printing) : Option Bytes × Printing :=
  match p.args with
  | .null :: rest => (none, { p with args := rest })
  | v :: rest => (some (untilNul v.textBytes), { p with args := rest })
  | [] => (none, p)

end Printing

def readFlags : Nat → Spec → List Char → Spec × List Char
  | 0, s, cs => (s, cs)
  | k + 1, s, c :: rest =>
    match c with
    | '-' => readFlags k { s with leftJustify := true } rest
    | '+' => readFlags k { s with plus := true } rest
    | ' ' => readFlags k { s with blank := true } rest
    | '#' => readFlags k { s with alternate := true } rest
    | '!' => readFlags k { s with altform2 := true } rest
    | '0' => readFlags k { s with zeroPad := true } rest
    | ',' => readFlags k { s with comma := true } rest
    | _ => (s, c :: rest)
  | _, s, [] => (s, [])

def readNumber (cs : List Char) : Nat × List Char :=
  let ds := cs.takeWhile Char.isDigit
  (ds.foldl (fun acc d => (acc * 10 + (d.toNat - 48)) % Nat.pow 2 31) 0, cs.drop ds.length)

def convertNumber (s : Spec) (p : Printing) (c : Char) : Option (String × Printing) :=
  match c with
  | 'd' | 'i' =>
    let (v, p) := p.int
    some (formatInteger s 10 false (v < 0) v.natAbs "" true, p)
  | 'u' =>
    let (v, p) := p.int
    some (formatInteger { s with plus := false, blank := false } 10 false false (toWord v) "" true, p)
  | 'x' =>
    let (v, p) := p.int
    some (formatInteger { s with plus := false, blank := false } 16 false false (toWord v) "0x" false, p)
  | 'X' =>
    let (v, p) := p.int
    some (formatInteger { s with plus := false, blank := false } 16 true false (toWord v) "0X" false, p)
  | 'o' =>
    let (v, p) := p.int
    some (formatInteger { s with plus := false, blank := false } 8 false false (toWord v) "0" false, p)
  | 'p' =>
    let (v, p) := p.int
    some (formatInteger { s with plus := false, blank := false } 16 true false (toWord v) "0x" false, p)
  | 'r' =>
    let (v, p) := p.int
    let text := formatInteger { s with width := 0 } 10 false (v < 0) v.natAbs "" false
    some (padTo s (text ++ ordinalSuffix v.natAbs), p)
  | 'f' => let (r, p) := p.real; some (formatFloat .fixed s r, p)
  | 'e' => let (r, p) := p.real; some (formatFloat (.exponent false) s r, p)
  | 'E' => let (r, p) := p.real; some (formatFloat (.exponent true) s r, p)
  | 'g' => let (r, p) := p.real; some (formatFloat (.general false) s r, p)
  | 'G' => let (r, p) := p.real; some (formatFloat (.general true) s r, p)
  | 'n' => some ("", p)
  | '%' => some (padTo s "%", p)
  | _ => none

def convertText (s : Spec) (p : Printing) (c : Char) : Option (Bytes × Printing) :=
  match c with
  | 's' | 'z' =>
    let (t, p) := p.text
    let b := t.getD []
    let b := match s.precision with
      | some n => if s.altform2 then ((charPieces b).take n).flatten else b.take n
      | none => b
    some (padText s b, p)
  | 'c' =>
    let (t, p) := p.text
    let one : Bytes := match t with
      | some (x :: rest) => if x ≥ 0xC0 then x :: (rest.takeWhile isContinuation).take 3 else [x]
      | _ => [0]
    some (repeatChar s one, p)
  | 'q' | 'Q' | 'w' =>
    let (t, p) := p.text
    let q : UInt8 := if c = 'w' then 34 else 39
    let isNull := t.isNone
    let arg := t.getD (Bytes.ofString (if c = 'Q' then "NULL" else "(NULL)"))
    let arg := match s.precision with
      | some n => if s.altform2 then ((charPieces arg).take n).flatten else arg.take n
      | none => arg
    let body := arg.flatMap fun b => if b = q then [b, b] else [b]
    let body := if !isNull && c = 'Q' then q :: body ++ [q] else body
    some (padText s body, p)
  | _ => none

def convert (s : Spec) (p : Printing) (c : Char) : Option (Bytes × Printing) :=
  match convertNumber s p c with
  | some (t, p) => some (Bytes.ofString t, p)
  | none => convertText s p c

def printfLoop : Nat → Printing → List Char → Bytes
  | 0, p, _ => p.out
  | _ + 1, p, [] => p.out
  | k + 1, p, c :: rest =>
    if c ≠ '%' then printfLoop k { p with out := p.out ++ [c.toNat.toUInt8] } rest else
    match rest with
    | [] => p.out ++ [37]
    | _ =>
      let (s, rest) := readFlags rest.length {} rest
      let (s, p, rest) : Spec × Printing × List Char := match rest with
        | '*' :: r =>
          let (w, p) := p.int
          if w < 0 then ({ s with leftJustify := true, width := w.natAbs % Nat.pow 2 31 }, p, r)
          else ({ s with width := w.toNat % Nat.pow 2 31 }, p, r)
        | r => let (w, r) := readNumber r; ({ s with width := w }, p, r)
      let (s, p, rest) : Spec × Printing × List Char := match rest with
        | '.' :: '*' :: r =>
          let (v, p) := p.int
          ({ s with precision := if v < 0 then none else some (v.toNat % Nat.pow 2 31) }, p, r)
        | '.' :: r => let (v, r) := readNumber r; ({ s with precision := some v }, p, r)
        | r => (s, p, r)
      let rest := match rest with
        | 'l' :: 'l' :: r => r
        | 'l' :: r => r
        | r => r
      match rest with
      | [] => p.out
      | t :: after =>
        match convert s p t with
        | some (text, p) => printfLoop k { p with out := p.out ++ text } after
        | none => p.out

def printfText (format : Bytes) (args : List Value) : Bytes :=
  let cs := byteChars (untilNul format)
  printfLoop (cs.length + 1) { args := args } cs

def roundReal (r : Binary64) (n : Nat) : Binary64 :=
  let n := min n 30
  let limit := Binary64.ofDecimal false 4503599627370496 0
  if r.compare limit.negate = .lt || r.compare limit = .gt then r
  else if n = 0 then
    let half := Binary64.ofDecimal (r.isNegative) 5 (-1)
    toReal (r.add half).toInt64Word
  else (readReal (floatBody .fixed { altform2 := true, precision := some n } r).toList).1

end Issuance.Sql
