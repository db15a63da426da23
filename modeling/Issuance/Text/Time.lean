/-! # Times and durations as text

Unix seconds in RFC 3339 in UTC; durations in hours, minutes and seconds,
leading zero units left out (`2m0s`). -/
namespace Issuance.Text

/-- A number with at least `w` digits, zero padded. -/
def padded (w n : Nat) : String :=
  let s := toString n
  String.ofList (List.replicate (w - s.length) '0') ++ s

def civil (days : Int) : Int × Nat × Nat :=
  let z := days + 719468
  let era := z / 146097
  let doe := (z - era * 146097).toNat
  let yoe := (doe - doe / 1460 + doe / 36524 - doe / 146096) / 365
  let y := (yoe : Int) + era * 400
  let doy := doe - (365 * yoe + yoe / 4 - yoe / 100)
  let mp := (5 * doy + 2) / 153
  let d := doy - (153 * mp + 2) / 5 + 1
  let m := if mp < 10 then mp + 3 else mp - 9
  (if m ≤ 2 then y + 1 else y, m, d)

/-- The year as written: four digits at least, a sign when negative. -/
def yearText (y : Int) : String :=
  if y < 0 then "-" ++ padded 4 (-y).toNat else padded 4 y.toNat

/-- Date and time of day of a Unix second, without a zone, the date's parts
joined by `dateSep` and the time's by `timeSep`. -/
def dateTimeWith (dateSep timeSep : String) (secs : Int) : String :=
  let days := secs.fdiv 86400
  let rest := (secs - days * 86400).toNat
  let (y, m, d) := civil days
  yearText y ++ dateSep ++ padded 2 m ++ dateSep ++ padded 2 d ++ "T" ++ padded 2 (rest / 3600) ++ timeSep ++
    padded 2 (rest / 60 % 60) ++ timeSep ++ padded 2 (rest % 60)

def dateTime (secs : Int) : String := dateTimeWith "-" ":" secs

def rfc3339 (secs : Int) : String := dateTime secs ++ "Z"

/-- RFC 3339 text of a Unix second and nanoseconds in UTC; trailing zeros of
the fraction are dropped, and no fraction is written for zero. -/
def rfc3339Nano (secs : Int) (nanos : Nat) : String :=
  let frac := if nanos = 0 then "" else
    "." ++ String.ofList ((padded 9 nanos).toList.reverse.dropWhile (· = '0')).reverse
  dateTime secs ++ frac ++ "Z"

/-- The fraction of `v / 10^prec` as text without trailing zeros, with its
point, or nothing when it is zero; and the whole part. -/
def fraction (v prec : Nat) : String × Nat :=
  let digits := (List.range prec).map (fun i => v / Nat.pow 10 i % 10)
  let kept := (digits.dropWhile (· = 0)).reverse
  let text := if kept.isEmpty then "" else "." ++ String.ofList (kept.map fun d => Char.ofNat (48 + d))
  (text, v / Nat.pow 10 prec)

/-- A span of nanoseconds as hours, minutes and seconds with a fraction; a
span under a second in milli-, micro- or nanoseconds. -/
def durationNanos (ns : Int) : String :=
  let sign := if ns < 0 then "-" else ""
  let u := ns.natAbs
  if u = 0 then "0s"
  else if u < 1000 then sign ++ toString u ++ "ns"
  else if u < 1000000 then
    let (f, w) := fraction u 3
    sign ++ toString w ++ f ++ "µs"
  else if u < 1000000000 then
    let (f, w) := fraction u 6
    sign ++ toString w ++ f ++ "ms"
  else
    let (f, s) := fraction u 9
    let m := s / 60
    let h := m / 60
    sign ++ (if h > 0 then toString h ++ "h" else "") ++ (if m > 0 then toString (m % 60) ++ "m" else "") ++
      toString (s % 60) ++ f ++ "s"

end Issuance.Text
