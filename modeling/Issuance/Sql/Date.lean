import Issuance.Sql.Format
/-! # Dates and times

A time value, then modifiers. A time is a Julian day in milliseconds with
calendar and clock fields, proleptic Gregorian from −4713 to 9999, partly
in binary64 as the database computes; the local zone is UTC. -/
namespace Issuance.Sql

open Decimal

structure DateState where
  jd : Int := 0
  year : Int := 0
  month : Int := 0
  day : Int := 0
  hour : Int := 0
  minute : Int := 0
  second : Binary64 := Binary64.zero false
  tz : Int := 0
  validJD : Bool := false
  validYMD : Bool := false
  validHMS : Bool := false
  validTZ : Bool := false
  rawS : Bool := false
  isError : Bool := false
  deriving Inhabited

def dec (digits : Nat) (exp : Int) : Binary64 := Binary64.ofDecimal false digits exp

def unixEpochJD : Int := 210866760000000

def validJulianDay (jd : Int) : Bool := 0 ≤ jd && jd ≤ 464269060799999

def fixedDigits : Nat → List Char → Option (Nat × List Char)
  | 0, cs => some (0, cs)
  | n + 1, c :: cs =>
    if c.isDigit then
      (fixedDigits n cs).map fun (v, rest) => ((c.toNat - 48) * Nat.pow 10 n + v, rest)
    else none
  | _ + 1, [] => none

def boundedPair (lo hi : Nat) (cs : List Char) : Option (Nat × List Char) :=
  match fixedDigits 2 cs with
  | some (v, rest) => if lo ≤ v && v ≤ hi then some (v, rest) else none
  | none => none

def DateState.error : DateState := { isError := true }

def DateState.computeJD (p : DateState) : DateState :=
  if p.validJD then p else
  let (y, m, d) := if p.validYMD then (p.year, p.month, p.day) else (2000, 1, 1)
  if y < -4713 || y > 9999 || p.rawS then DateState.error else
  let (y, m) := if m ≤ 2 then (y - 1, m + 12) else (y, m)
  let a := y.tdiv 100
  let b := 2 - a + a.tdiv 4
  let x1 := (36525 * (y + 4716)).tdiv 100
  let x2 := (306001 * (m + 1)).tdiv 10000
  let jd := (x1 + x2 + d + b) * 86400000 - 131716800000
  let p := { p with jd := jd, validJD := true }
  if p.validHMS then
    let ms := ((p.second.mul (dec 1000 0)).add (dec 5 (-1))).toInt64Word
    let p := { p with jd := p.jd + p.hour * 3600000 + p.minute * 60000 + ms }
    if p.validTZ then
      { p with jd := p.jd - p.tz * 60000, validYMD := false, validHMS := false, validTZ := false }
    else p
  else p

def DateState.computeYMD (p : DateState) : DateState :=
  if p.validYMD then p
  else if !p.validJD then { p with year := 2000, month := 1, day := 1, validYMD := true }
  else if !validJulianDay p.jd then DateState.error
  else
    let z : Int := (p.jd + 43200000).tdiv 86400000
    let a : Int := (((toReal z).sub (dec 186721625 (-2))).div (dec 3652425 (-2))).toInt64Word
    let a := z + 1 + a - a.tdiv 4
    let b := a + 1524
    let c : Int := (((toReal b).sub (dec 1221 (-1))).div (dec 36525 (-2))).toInt64Word
    let d := (36525 * (c % 32768)).tdiv 100
    let e : Int := (((toReal (b - d))).div (dec 306001 (-4))).toInt64Word
    let x1 : Int := ((dec 306001 (-4)).mul (toReal e)).toInt64Word
    let month := if e < 14 then e - 1 else e - 13
    { p with day := b - d - x1, month := month, year := if month > 2 then c - 4716 else c - 4715,
             validYMD := true }

def DateState.computeHMS (p : DateState) : DateState :=
  if p.validHMS then p else
  let p := p.computeJD
  let s : Int := (p.jd + 43200000).tmod 86400000
  let sec := (toReal s).div (dec 1000 0)
  let whole : Int := sec.toInt64Word
  let sec := sec.sub (toReal whole)
  let hour := whole.tdiv 3600
  let rest := whole - hour * 3600
  let minute := rest.tdiv 60
  { p with second := sec.add (toReal (rest - minute * 60)), hour := hour, minute := minute, rawS := false,
           validHMS := true }

def DateState.computeAll (p : DateState) : DateState := p.computeYMD.computeHMS

def DateState.clearFields (p : DateState) : DateState :=
  { p with validYMD := false, validHMS := false, validTZ := false }

def readZone (cs : List Char) (p : DateState) : Option DateState :=
  let cs := cs.dropWhile isSpace
  let p := { p with tz := 0 }
  match cs with
  | [] => some p
  | c :: rest =>
    if c = 'Z' || c = 'z' then
      if (rest.dropWhile isSpace).isEmpty then some p else none
    else if c = '-' || c = '+' then
      match boundedPair 0 14 rest with
      | some (h, ':' :: r) =>
        match boundedPair 0 59 r with
        | some (m, r) =>
          if (r.dropWhile isSpace).isEmpty then
            some { p with tz := (if c = '-' then -1 else 1) * ((m : Int) + h * 60) }
          else none
        | none => none
      | _ => none
    else none

def fractionOf (ds : List Char) : Binary64 :=
  let (num, scale) := ds.foldl (fun (acc : Binary64 × Binary64) c =>
    ((acc.1.mul ten).add (toReal (c.toNat - 48 : Nat)), acc.2.mul ten)) (Binary64.zero false, toReal 1)
  num.div scale

def readClock (cs : List Char) (p : DateState) : Option DateState := do
  let (h, rest) ← boundedPair 0 24 cs
  let rest ← match rest with
    | ':' :: r => some r
    | _ => none
  let (m, rest) ← boundedPair 0 59 rest
  let (sec, rest) ← match rest with
    | ':' :: r => do
      let (s, r) ← boundedPair 0 59 r
      match r with
      | '.' :: d :: r' =>
        if d.isDigit then
          let ds := (d :: r').takeWhile Char.isDigit
          some ((toReal s).add (fractionOf ds), (d :: r').drop ds.length)
        else some (toReal s, r)
      | _ => some (toReal s, r)
    | r => some (Binary64.zero false, r)
  let p := { p with validJD := false, rawS := false, validHMS := true, hour := h, minute := m, second := sec }
  let p ← readZone rest p
  pure { p with validTZ := p.tz ≠ 0 }

def readCalendar (cs : List Char) (p : DateState) : Option DateState := do
  let (neg, cs) := match cs with
    | '-' :: r => (true, r)
    | r => (false, r)
  let (y, rest) ← fixedDigits 4 cs
  let rest ← match rest with
    | '-' :: r => some r
    | _ => none
  let (m, rest) ← boundedPair 1 12 rest
  let rest ← match rest with
    | '-' :: r => some r
    | _ => none
  let (d, rest) ← boundedPair 1 31 rest
  let rest := rest.dropWhile fun c => isSpace c || c = 'T'
  let p ← match readClock rest p with
    | some q => some q
    | none => if rest.isEmpty then some { p with validHMS := false } else none
  let p := { p with validJD := false, validYMD := true, year := if neg then -(y : Int) else y, month := m, day := d }
  pure (if p.validTZ then p.computeJD else p)

def DateState.ofNumber (r : Binary64) : DateState :=
  let p : DateState := { second := r, rawS := true }
  if r.compare (Binary64.zero false) != .lt && r.compare (dec 53734845 (-1)) = .lt then
    { p with jd := ((r.mul (dec 86400000 0)).add (dec 5 (-1))).toInt64Word, validJD := true }
  else p

def DateState.now (clockMs : Int) : DateState := { jd := clockMs + unixEpochJD, validJD := true }

def isWordText (s w : String) : Bool := s.toList.map foldAscii == w.toList.map foldAscii

def readTimeText (clockMs : Int) (s : String) : Option DateState :=
  let cs := s.toList
  match readCalendar cs {} with
  | some p => some p
  | none =>
    match readClock cs {} with
    | some p => some p
    | none =>
      if isWordText s "now" then some (DateState.now clockMs)
      else
        let (r, rc) := readReal cs
        if rc > 0 then some (DateState.ofNumber r)
        else none

def timeUnits : List (String × Binary64 × Nat) :=
  [("second", dec 46427 10, 1), ("minute", dec 77379 8, 60), ("hour", dec 12897 7, 3600),
    ("day", dec 5373485 0, 86400), ("month", dec 176546 0, 2592000), ("year", dec 14713 0, 31536000)]

def amountPart (cs : List Char) : List Char × List Char :=
  match cs with
  | c :: rest =>
    let more := rest.takeWhile fun x => x ≠ ':' && !isSpace x
    (c :: more, rest.drop more.length)
  | [] => ([], [])

def addUnit (p : DateState) (r : Binary64) (unit : String) (seconds : Nat) : DateState :=
  let rounder := if r.isNegative then (dec 5 (-1)).negate else dec 5 (-1)
  let (p, r) :=
    if unit = "month" then
      let p := p.computeAll
      let whole : Int := r.toInt64Word
      let m := p.month + whole
      let x := if m > 0 then (m - 1).tdiv 12 else (m - 12).tdiv 12
      ({ p with year := p.year + x, month := m - x * 12, validJD := false }, r.sub (toReal whole))
    else if unit = "year" then
      let p := p.computeAll
      let whole : Int := r.toInt64Word
      ({ p with year := p.year + whole, validJD := false }, r.sub (toReal whole))
    else (p, r)
  let p := p.computeJD
  { p with jd := p.jd + (((r.mul (dec 1000 0)).mul (toReal seconds)).add rounder).toInt64Word }

def applyModifier (p : DateState) (text : String) (idx : Nat) : Option DateState :=
  let z := text.toList
  let lower := String.ofList (z.map foldAscii)
  if lower = "auto" then
    if idx > 1 then none
    else if !p.rawS || p.validJD then some { p with rawS := false }
    else if p.second.compare (dec 210866760000 0).negate != .lt && p.second.compare (dec 253402300799 0) != .gt then
      let r := (p.second.mul (dec 1000 0)).add (dec 210866760000000 0)
      some { p.clearFields with jd := (r.add (dec 5 (-1))).toInt64Word, validJD := true, rawS := false }
    else none
  else if lower = "julianday" then
    if idx > 1 then none
    else if p.validJD && p.rawS then some { p with rawS := false } else none
  else if lower = "localtime" then
    let q := p.computeJD
    if q.isError then none
    else
      let q := { q with validYMD := false, validHMS := false }.computeAll
      some { q with validJD := false, rawS := false, validTZ := false }
  else if lower = "unixepoch" then
    if !p.rawS then none
    else if idx > 1 then none
    else
      let r := (p.second.mul (dec 1000 0)).add (dec 210866760000000 0)
      if r.compare (Binary64.zero false) != .lt && r.compare (dec 464269060800000 0) = .lt then
        some { p.clearFields with jd := (r.add (dec 5 (-1))).toInt64Word, validJD := true, rawS := false }
      else none
  else if lower = "utc" then
    let q := p.computeJD
    some { q.clearFields with rawS := false }
  else if lower.startsWith "weekday " then
    let (r, rc) := readReal (z.drop 8)
    let n : Int := r.toInt64Word
    if rc > 0 && (toReal n).compare r = .eq && n ≥ 0 && r.compare (toReal 7) = .lt then
      let q := { p.computeAll with validTZ := false, validJD := false }.computeJD
      let zd := ((q.jd + 129600000).tdiv 86400000).tmod 7
      let zd := if zd > n then zd - 7 else zd
      some (DateState.clearFields { q with jd := q.jd + (n - zd) * 86400000 })
    else none
  else if lower.startsWith "start of " then
    if !p.validJD && !p.validYMD && !p.validHMS then none else
    let q := p.computeYMD
    let q := { q with validHMS := true, hour := 0, minute := 0, second := Binary64.zero false, rawS := false,
                      validTZ := false, validJD := false }
    let unit := lower.drop 9
    if unit == "month" then some { q with day := 1 }
    else if unit == "year" then some { q with month := 1, day := 1 }
    else if unit == "day" then some q
    else none
  else
    match z with
    | c :: _ =>
      if c = '+' || c = '-' || c.isDigit then
        let (amount, rest) := amountPart z
        let (r, rc) := readReal amount
        if rc ≤ 0 then none
        else match rest with
          | ':' :: _ =>
            let z2 := if c.isDigit then z else z.drop 1
            match readClock z2 {} with
            | some tx =>
              let tx := tx.computeJD
              let t := tx.jd - 43200000
              let t := t - t.tdiv 86400000 * 86400000
              let t := if c = '-' then -t else t
              let q := p.computeJD
              some { q.clearFields with jd := q.jd + t }
            | none => none
          | _ =>
            let unitText := (rest.dropWhile isSpace)
            let n := unitText.length
            if n > 10 || n < 3 then none else
            let unitText := if foldAscii (unitText.getLastD ' ') = 's' then unitText.dropLast else unitText
            let unit := String.ofList (unitText.map foldAscii)
            let p := p.computeJD
            match timeUnits.find? fun (name, limit, _) =>
                name == unit && r.compare limit.negate = .gt && r.compare limit = .lt with
            | some (name, _, secs) => some (addUnit p r name secs).clearFields
            | none => none
      else none
    | [] => none

def dateChars (v : Value) : String := String.ofList (byteChars (untilNul v.textBytes))

def applyModifiers (p : DateState) (mods : List Value) : Option DateState :=
  (mods.zipIdx.foldlM (fun (q : DateState) (m, i) =>
    match m with
    | .null => none
    | v => applyModifier q (dateChars v) (i + 1)) p)

def readDate (clockMs : Int) (args : List Value) : Option DateState := do
  let p ← match args with
    | [] => some (DateState.now clockMs)
    | .int i :: _ => some (DateState.ofNumber (toReal i))
    | .real r :: _ => some (DateState.ofNumber r)
    | .null :: _ => none
    | v :: _ => readTimeText clockMs (dateChars v)
  let p ← applyModifiers p (args.drop 1)
  let p := p.computeJD
  if p.isError || !validJulianDay p.jd then none else some p

def twoDigits (n : Int) : String :=
  let n := n.natAbs
  String.ofList [Char.ofNat (48 + n / 10 % 10), Char.ofNat (48 + n % 10)]

def dateText (p : DateState) : String :=
  let y := p.year.natAbs
  (if p.year < 0 then "-" else "") ++
    String.ofList [Char.ofNat (48 + y / 1000 % 10), Char.ofNat (48 + y / 100 % 10), Char.ofNat (48 + y / 10 % 10),
      Char.ofNat (48 + y % 10)] ++ "-" ++ twoDigits p.month ++ "-" ++ twoDigits p.day

def clockText (p : DateState) : String :=
  twoDigits p.hour ++ ":" ++ twoDigits p.minute ++ ":" ++ twoDigits p.second.toInt64Word

def dateFunction (clockMs : Int) (args : List Value) : Value :=
  match readDate clockMs args with
  | some p => .str (dateText p.computeAll)
  | none => .null

def timeFunction (clockMs : Int) (args : List Value) : Value :=
  match readDate clockMs args with
  | some p => .str (clockText p.computeAll)
  | none => .null

def datetimeFunction (clockMs : Int) (args : List Value) : Value :=
  match readDate clockMs args with
  | some p => let p := p.computeAll; .str (dateText p ++ " " ++ clockText p)
  | none => .null

def juliandayFunction (clockMs : Int) (args : List Value) : Value :=
  match readDate clockMs args with
  | some p => .real ((toReal p.jd).div (dec 86400000 0))
  | none => .null

def unixepochFunction (clockMs : Int) (args : List Value) : Value :=
  match readDate clockMs args with
  | some p => .int (p.jd.tdiv 1000 - 210866760000)
  | none => .null

def strftimeField (p : DateState) (c : Char) : Option String :=
  let int2 := fun (n : Int) => formatInteger { zeroPad := true, width := 2 } 10 false (n < 0) n.natAbs "" false
  match c with
  | 'd' => some (int2 p.day)
  | 'f' =>
    let s := if p.second.compare (dec 59999 (-3)) = .gt then dec 59999 (-3) else p.second
    some (formatFloat .fixed { zeroPad := true, width := 6, precision := some 3 } s)
  | 'H' => some (int2 p.hour)
  | 'W' | 'j' =>
    let y := { p with validJD := false, month := 1, day := 1 }.computeJD
    let nDay := (p.jd - y.jd + 43200000).tdiv 86400000
    if c = 'W' then
      let wd := ((p.jd + 43200000).tdiv 86400000).tmod 7
      some (int2 ((nDay + 7 - wd).tdiv 7))
    else some (formatInteger { zeroPad := true, width := 3 } 10 false false (nDay + 1).natAbs "" false)
  | 'J' => some (formatFloat (.general false) { precision := some 16 } ((toReal p.jd).div (dec 86400000 0)))
  | 'm' => some (int2 p.month)
  | 'M' => some (int2 p.minute)
  | 's' => some (toString (p.jd.tdiv 1000 - 210866760000))
  | 'S' => some (int2 p.second.toInt64Word)
  | 'w' => some (toString (((p.jd + 129600000).tdiv 86400000).tmod 7))
  | 'Y' => some (formatInteger { zeroPad := true, width := 4 } 10 false (p.year < 0) p.year.natAbs "" false)
  | '%' => some "%"
  | _ => none

def strftimeText (p : DateState) : List Char → Option String
  | [] => some ""
  | '%' :: c :: rest => do
    let f ← strftimeField p c
    let r ← strftimeText p rest
    pure (f ++ r)
  | ['%'] => none
  | c :: rest => (strftimeText p rest).map fun r => String.ofList [c] ++ r

def strftimeFunction (clockMs : Int) (args : List Value) : Value :=
  match args with
  | [] => .null
  | .null :: _ => .null
  | f :: rest =>
    match readDate clockMs rest with
    | some p =>
      match strftimeText p.computeAll (byteChars (untilNul f.textBytes)) with
      | some t => .text (charBytes t.toList)
      | none => .null
    | none => .null

end Issuance.Sql
