import Issuance.Text.Time
import Issuance.Text.Quoted
/-! # Instants and their text

A Unix second with nanoseconds, written in RFC 3339, the database's form or
`20060102T150405`. Reading follows a layout and names the first piece that
does not match. -/
namespace Issuance.Text

/-- An instant: a Unix second and the nanoseconds after it. -/
structure Instant where
  seconds : Int
  nanos : Nat := 0
  deriving DecidableEq, Repr

namespace Instant

def before (a b : Instant) : Bool := a.seconds < b.seconds || (a.seconds = b.seconds && a.nanos < b.nanos)

def rfc3339Nano (t : Instant) : String := Text.rfc3339Nano t.seconds t.nanos

/-- The fraction of a second as written: a point and the digits without
trailing zeros, or nothing for zero. -/
def fractionText (nanos : Nat) : String :=
  if nanos = 0 then "" else
    "." ++ String.ofList ((padded 9 nanos).toList.reverse.dropWhile (· = '0')).reverse

def sqlText (t : Instant) : String :=
  (dateTime t.seconds).map (fun c => if c = 'T' then ' ' else c) ++ fractionText t.nanos ++ "+00:00"

def compact (t : Instant) : String := dateTimeWith "" "" t.seconds

def addMicros (t : Instant) (us : Nat) : Instant :=
  let total := t.nanos + us * 1000
  ⟨t.seconds + (total / 1000000000 : Nat), total % 1000000000⟩

/-- The instant `ns` nanoseconds after `t` (before it when negative). -/
def shift (t : Instant) (ns : Int) : Instant :=
  let total := t.seconds * 1000000000 + t.nanos + ns
  ⟨total.fdiv 1000000000, (total.fmod 1000000000).toNat⟩

def year (t : Instant) : Int := (civil (t.seconds.fdiv 86400)).1

end Instant

def daysFromCivil (y : Int) (m d : Nat) : Int :=
  let y := if m ≤ 2 then y - 1 else y
  let era := y / 400
  let yoe := (y - era * 400).toNat
  let mp := if m > 2 then m - 3 else m + 9
  let doy := (153 * mp + 2) / 5 + d - 1
  let doe := yoe * 365 + yoe / 4 - yoe / 100 + doy
  era * 146097 + doe - 719468

def isLeap (y : Int) : Bool := y % 4 = 0 && (y % 100 ≠ 0 || y % 400 = 0)

def daysIn (m : Nat) (y : Int) : Nat :=
  if m = 2 then (if isLeap y then 29 else 28)
  else if m = 4 || m = 6 || m = 9 || m = 11 then 30 else 31

inductive Piece where
  | lit (text : String)
  | year
  | month (padded : Bool)
  | day (padded : Bool)
  | hour
  | minute (padded : Bool)
  | second (padded : Bool)
  | fraction
  | zone (allowZ : Bool)
  | numericZone
  | zoneName
  deriving DecidableEq, Repr

def Piece.text : Piece → String
  | .lit s => s
  | .year => "2006"
  | .month p => if p then "01" else "1"
  | .day p => if p then "02" else "2"
  | .hour => "15"
  | .minute p => if p then "04" else "4"
  | .second p => if p then "05" else "5"
  | .fraction => ".999999999"
  | .zone true => "Z07:00"
  | .zone false => "-07:00"
  | .numericZone => "-0700"
  | .zoneName => "MST"

def rfc3339Layout : List Piece :=
  [.year, .lit "-", .month true, .lit "-", .day true, .lit "T", .hour, .lit ":", .minute true, .lit ":",
    .second true, .zone true]

def layoutText (l : List Piece) : String := String.join (l.map Piece.text)

structure Fields where
  year : Int := 0
  month : Nat := 1
  day : Nat := 1
  hour : Nat := 0
  minute : Nat := 0
  second : Nat := 0
  nanos : Nat := 0
  offset : Int := 0
  utc : Bool := false

def digitAt (cs : List Char) (i : Nat) : Bool := (cs[i]?.map Char.isDigit).getD false

def digitValue (c : Char) : Nat := c.toNat - 48

def number (cs : List Char) (fixed : Bool) : Option (Nat × List Char) :=
  match cs with
  | a :: b :: rest =>
    if !a.isDigit then none
    else if b.isDigit then some (digitValue a * 10 + digitValue b, rest)
    else if fixed then none else some (digitValue a, b :: rest)
  | [a] => if a.isDigit && !fixed then some (digitValue a, []) else none
  | [] => none

/-- Nanoseconds of a fraction `.ddd` of `n` characters (the point
included); digits past the ninth are dropped. -/
def nanosOf (cs : List Char) (n : Nat) : Nat :=
  let ds := (cs.drop 1).take (min n 10 - 1)
  ds.foldl (fun acc c => acc * 10 + digitValue c) 0 * Nat.pow 10 (9 - ds.length)

def skipLiteral : List Char → List Char → Option (List Char)
  | [], v => some v
  | ' ' :: p, v =>
    match v with
    | c :: _ => if c ≠ ' ' then none else skipLiteral p (v.dropWhile (· = ' '))
    | [] => skipLiteral p []
  | c :: p, v =>
    match v with
    | d :: v' => if c = d then skipLiteral p v' else none
    | [] => none

/-- How reading a piece ends: with the rest of the text, at a piece that
does not match, or at a value out of range. -/
inductive Read where
  | next (f : Fields) (rest : List Char)
  | bad
  | range (what : String) (rest : List Char)

def digitRun (cs : List Char) (i : Nat) : Nat := ((cs.drop i).takeWhile Char.isDigit).length

/-- Read one piece at the front of the text; `fracNext` tells whether the
layout's next piece is a fraction. -/
def readPiece (f : Fields) (p : Piece) (fracNext : Bool) (v : List Char) : Read :=
  match p with
  | .lit s => match skipLiteral s.toList v with
    | some r => .next f r
    | none => .bad
  | .year =>
    if v.length < 4 || !digitAt v 0 || !(v.take 4).all Char.isDigit then .bad
    else .next { f with year := (v.take 4).foldl (fun acc c => acc * 10 + digitValue c) 0 } (v.drop 4)
  | .month padded => match number v padded with
    | some (m, r) => if m = 0 || m > 12 then .range "month" r else .next { f with month := m } r
    | none => .bad
  | .day padded => match number v padded with
    | some (d, r) => .next { f with day := d } r
    | none => .bad
  | .hour => match number v false with
    | some (h, r) => if h ≥ 24 then .range "hour" r else .next { f with hour := h } r
    | none => .bad
  | .minute padded => match number v padded with
    | some (m, r) => if m ≥ 60 then .range "minute" r else .next { f with minute := m } r
    | none => .bad
  | .second padded => match number v padded with
    | some (s, r) =>
      if s ≥ 60 then .range "second" r
      else if !fracNext && r.length ≥ 2 && (r.head? == some '.' || r.head? == some ',') && digitAt r 1 then
        let n := 1 + digitRun r 1
        .next { f with second := s, nanos := nanosOf r n } (r.drop n)
      else .next { f with second := s } r
    | none => .bad
  | .fraction =>
    if v.length < 2 || !(v.head? == some '.' || v.head? == some ',') || !digitAt v 1 then .next f v
    else
      let n := 1 + digitRun v 1
      .next { f with nanos := nanosOf v n } (v.drop n)
  | .zone allowZ =>
    if allowZ && v.head? == some 'Z' then .next { f with offset := 0 } (v.drop 1)
    else if v.length < 6 || v[3]? != some ':' then .bad
    else
      let rest := v.drop 6
      match number ((v.drop 1).take 2) true with
      | none => .bad
      | some (h, _) =>
        match number ((v.drop 4).take 2) true with
        | none => if h > 24 then .range "time zone offset hour" rest else .bad
        | some (m, _) =>
          -- an offset of 24 hours or 60 minutes is taken; the minutes are named first
          if m > 60 then .range "time zone offset minute" rest
          else if h > 24 then .range "time zone offset hour" rest
          else
            let off : Int := ((h * 60 + m) * 60 : Nat)
            if v.head? == some '+' then .next { f with offset := off } rest
            else if v.head? == some '-' then .next { f with offset := -off } rest
            else .bad
  | .numericZone | .zoneName => .bad

/-- The length of a signed hour offset such as `+3` or `-11` at the front
of a zone name, zero when there is none or it exceeds 23. -/
def signedOffsetLength (v : List Char) : Nat :=
  match v with
  | c :: rest =>
    if c ≠ '+' && c ≠ '-' then 0 else
    let ds := rest.takeWhile Char.isDigit
    if ds.isEmpty || ds.foldl (fun acc d => min (acc * 10 + digitValue d) 100) 0 > 23 then 0 else 1 + ds.length
  | [] => 0

/-- The length of a leading zone name: capitals, `ChST`, `MeST`, `GMT`
with an optional offset, or a bare offset. -/
def zoneNameLength (v : List Char) : Option Nat :=
  if v.length < 3 then none
  else if v.take 4 == "ChST".toList || v.take 4 == "MeST".toList then some 4
  else if v.take 3 == "GMT".toList then some (3 + signedOffsetLength (v.drop 3))
  else if v.head? == some '+' || v.head? == some '-' then
    let n := signedOffsetLength v
    if n > 0 then some n else none
  else
    let upper := ((v.take 6).takeWhile fun c => 'A' ≤ c && c ≤ 'Z').length
    match upper with
    | 3 => some 3
    | 4 => if v[3]? == some 'T' || v.take 4 == "WITA".toList then some 4 else none
    | 5 => if v[4]? == some 'T' then some 5 else none
    | _ => none

def readZonePiece (f : Fields) (p : Piece) (v : List Char) : Read :=
  match p with
  | .numericZone =>
    if v.length < 5 then .bad else
    match number ((v.drop 1).take 2) true, number ((v.drop 3).take 2) true with
    | some (h, _), some (m, _) =>
      if m > 60 then .range "time zone offset minute" (v.drop 5)
      else if h > 24 then .range "time zone offset hour" (v.drop 5)
      else
        let off : Int := ((h * 60 + m) * 60 : Nat)
        if v.head? == some '+' then .next { f with offset := off } (v.drop 5)
        else if v.head? == some '-' then .next { f with offset := -off } (v.drop 5)
        else .bad
    | _, _ => .bad
  | _ =>
    if v.take 3 == "UTC".toList then .next { f with utc := true } (v.drop 3)
    else match zoneNameLength v with
      | some n => .next f (v.drop n)
      | none => .bad

def timeQuoted (s : String) : String :=
  let part (c : Char) : String :=
    if c.toNat < 32 || c.toNat ≥ 128 then
      String.join ((String.singleton c).toUTF8.toList.map fun b => "\\x" ++ hexDigits 2 b.toNat)
    else if c = '"' || c = '\\' then "\\" ++ c.toString else c.toString
  "\"" ++ String.join (s.toList.map part) ++ "\""

def parseError (layout value : String) (piece rest : String) : String :=
  "parsing time " ++ timeQuoted value ++ " as " ++ timeQuoted layout ++ ": cannot parse " ++
    timeQuoted rest ++ " as " ++ timeQuoted piece

def readPieces (layout value : String) : List Piece → Fields → List Char → Except String (Fields × List Char)
  | [], f, v => .ok (f, v)
  | p :: ps, f, v =>
    let read := match p with
      | .numericZone | .zoneName => readZonePiece f p v
      | _ => readPiece f p (ps.head? == some Piece.fraction) v
    match read with
    | .next f' r => readPieces layout value ps f' r
    | .bad => .error (parseError layout value p.text (String.ofList v))
    | .range what _ => .error ("parsing time " ++ timeQuoted value ++ ": " ++ what ++ " out of range")

def parseLayout (layout : List Piece) (value : String) : Except String Instant := do
  let lt := layoutText layout
  let (f, rest) ← readPieces lt value layout {} value.toList
  if !rest.isEmpty then
    throw ("parsing time " ++ timeQuoted value ++ ": extra text: " ++ timeQuoted (String.ofList rest))
  if f.day < 1 || f.day > daysIn f.month f.year then
    throw ("parsing time " ++ timeQuoted value ++ ": day out of range")
  let secs := daysFromCivil f.year f.month f.day * 86400 + (f.hour * 3600 + f.minute * 60 + f.second : Nat)
  pure ⟨secs - (if f.utc then 0 else f.offset), f.nanos⟩

def parseRfc3339 (value : String) : Except String Instant := parseLayout rfc3339Layout value

def sqlLayouts : List (List Piece) :=
  let date := [Piece.year, .lit "-", .month true, .lit "-", .day true]
  let clock (sep : String) := date ++ [.lit sep, .hour, .lit ":", .minute true]
  let full (sep : String) := clock sep ++ [.lit ":", .second true, .fraction]
  [full " " ++ [.zone false], full "T" ++ [.zone false], full " ", full "T", clock " ", clock "T", date]

/-- A database time text read into an instant, a trailing `Z` dropped first. -/
def Instant.ofSqlText? (s : String) : Option Instant :=
  let t := if s.endsWith "Z" then String.ofList s.toList.dropLast else s
  sqlLayouts.findSome? fun l => match parseLayout l t with
    | .ok i => some i
    | .error _ => none

/-- The layout of a time as Go writes it by default, with a numeric zone
and a zone name: `2006-01-02 15:04:05.999999999 -0700 MST`. -/
def printedLayout : List Piece :=
  [.year, .lit "-", .month true, .lit "-", .day true, .lit " ", .hour, .lit ":", .minute true, .lit ":",
    .second true, .fraction, .lit " ", .numericZone, .lit " ", .zoneName]

def isTrimSpace (c : Char) : Bool :=
  c = ' ' || c = '\t' || c = '\n' || c = '\r' || c.toNat = 11 || c.toNat = 12 || c.toNat = 0x85 ||
    c.toNat = 0xA0 || c.toNat = 0x1680 || (0x2000 ≤ c.toNat && c.toNat ≤ 0x200A) || c.toNat = 0x2028 ||
    c.toNat = 0x2029 || c.toNat = 0x202F || c.toNat = 0x205F || c.toNat = 0x3000

/-- The place of the first occurrence of a pattern in some text. -/
def findFrom (pat : List Char) : List Char → Nat → Option Nat
  | [], i => if pat.isEmpty then some i else none
  | c :: rest, i => if pat.isPrefixOf (c :: rest) then some i else findFrom pat rest (i + 1)

/-- A time column's text as the driver reads it: first as Go prints a time
(cut at `m=`, trimmed; a `UTC` zone wins over the offset), then in the
database's forms. -/
def Instant.ofDriverText? (s : String) : Option Instant :=
  let cs := s.toList
  let cut := match findFrom "m=".toList cs 0 with
    | some i => if i > 0 then cs.take i else cs
    | none => cs
  let trimmed := ((cut.dropWhile isTrimSpace).reverse.dropWhile isTrimSpace).reverse
  match parseLayout printedLayout (String.ofList trimmed) with
  | .ok t => some t
  | .error _ => Instant.ofSqlText? s

end Issuance.Text
