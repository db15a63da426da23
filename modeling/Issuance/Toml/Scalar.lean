import Issuance.Toml.Value
/-! # TOML scalars

An integer may have a sign or a base prefix, underscores only between
digits, no leading zero, and fits 64 bits; a float's point is followed by a
digit and it must be finite; dates take four forms. -/
namespace Issuance.Toml

open Decimal

def isHexDigit (c : Char) : Bool :=
  ('0' ≤ c && c ≤ '9') || ('a' ≤ c && c ≤ 'f') || ('A' ≤ c && c ≤ 'F')

def underscoresOk (s : String) : Bool :=
  if ["nan", "+nan", "-nan", "inf", "-inf", "+inf"].contains s then true else
  let (ok, accept) := s.toList.foldl (fun (ok, accept) c =>
    (ok && (c ≠ '_' || accept), isHexDigit c)) (true, false)
  ok && accept

def leadingZero (s : String) : Bool :=
  match s.toList with
  | '0' :: c :: _ => !(c = 'b' || c = 'o' || c = 'x')
  | s0 :: '0' :: _ :: _ => s0 = '-' || s0 = '+'
  | _ => false

def periodsOk (s : String) : Bool :=
  let (ok, period) := s.toList.foldl (fun (ok, period) c =>
    (ok && (!period || c.isDigit), c = '.')) (true, false)
  ok && !period

def readInteger (s : String) : Except String Int := do
  if !underscoresOk s then
    throw ("Invalid integer " ++ Text.quoted s ++ ": underscores must be surrounded by digits")
  if leadingZero s then throw ("Invalid integer " ++ Text.quoted s ++ ": cannot have leading zeroes")
  let cs := s.toList.filter (· ≠ '_')
  let (neg, body) := match cs with
    | '-' :: r => (true, r)
    | '+' :: r => (false, r)
    | r => (false, r)
  let v := match body with
    | '0' :: 'x' :: r => digitsValue 16 r
    | '0' :: 'o' :: r => digitsValue 8 r
    | '0' :: 'b' :: r => digitsValue 2 r
    | r => if r.isEmpty then none else digitsValue 10 r
  match v with
  | none => throw ("Invalid integer " ++ Text.quoted s)
  | some n =>
    let i : Int := if neg then -(n : Int) else n
    if i < -(Int.pow 2 63) || i ≥ Int.pow 2 63 then throw (s ++ " is out of range for int64")
    pure i

def fields (sep : Char → Bool) (s : String) : List String :=
  let (cur, acc) := s.toList.foldr (fun c (cur, acc) =>
    if sep c then ([], if cur.isEmpty then acc else cur :: acc) else (c :: cur, acc)) ([], [])
  (if cur.isEmpty then acc else cur :: acc).map String.ofList

def readFloat (s : String) : Except String Binary64 := do
  let parts := fields (fun c => c = '.' || c = 'e' || c = 'E') s
  if parts.any (!underscoresOk ·) then
    throw ("Invalid float " ++ Text.quoted s ++ ": underscores must be surrounded by digits")
  if parts.head?.any leadingZero then
    throw ("Invalid float " ++ Text.quoted s ++ ": cannot have leading zeroes")
  if !periodsOk s then
    throw ("Invalid float " ++ Text.quoted s ++ ": '.' must be followed by one or more digits")
  let v := String.ofList (s.toList.filter (· ≠ '_'))
  if v = "inf" || v = "+inf" then pure (.infinite false)
  else if v = "-inf" then pure (.infinite true)
  else if v = "nan" || v = "+nan" || v = "-nan" then pure .nan
  else match decimalParts v.toList with
    | none => throw ("Invalid float value: " ++ Text.quoted s)
    | some (neg, m, e) =>
      let x := Binary64.ofDecimal neg m e
      if x.isFinite then pure x else throw (s ++ " is out of range for float64")

def daysIn (year month : Nat) : Nat :=
  if month = 2 then (if year % 4 = 0 && (year % 100 ≠ 0 || year % 400 = 0) then 29 else 28)
  else if month = 4 || month = 6 || month = 9 || month = 11 then 30 else 31

def fixedDigits (n : Nat) (cs : List Char) : Option (Nat × List Char) :=
  let ds := cs.take n
  if ds.length = n && ds.all Char.isDigit then (digitsValue 10 ds).map (·, cs.drop n) else none

def datePart (cs : List Char) : Option (List Char) := do
  let (y, cs) ← fixedDigits 4 cs
  let cs ← match cs with | '-' :: r => some r | _ => none
  let (m, cs) ← fixedDigits 2 cs
  let cs ← match cs with | '-' :: r => some r | _ => none
  let (d, cs) ← fixedDigits 2 cs
  if 1 ≤ m && m ≤ 12 && 1 ≤ d && d ≤ daysIn y m then some cs else none

def timePart (cs : List Char) : Option (List Char) := do
  let (h, cs) ← fixedDigits 2 cs
  let cs ← match cs with | ':' :: r => some r | _ => none
  let (m, cs) ← fixedDigits 2 cs
  let cs ← match cs with | ':' :: r => some r | _ => none
  let (s, cs) ← fixedDigits 2 cs
  let cs := match cs with
    | '.' :: d :: r => if d.isDigit then (d :: r).dropWhile Char.isDigit else cs
    | _ => cs
  if h ≤ 23 && m ≤ 59 && s ≤ 59 then some cs else none

def offsetPart (cs : List Char) : Option (List Char) :=
  match cs with
  | 'Z' :: r => some r
  | s :: r =>
    if s = '+' || s = '-' then do
      let (h, r) ← fixedDigits 2 r
      let r ← match r with | ':' :: x => some x | _ => none
      let (m, r) ← fixedDigits 2 r
      if h ≤ 24 && m ≤ 60 then some r else none
    else none
  | [] => none

def isDatetime (cs : List Char) : Bool :=
  let full := (datePart cs).bind fun r => match r with
    | 'T' :: t => timePart t
    | _ => none
  (full.bind offsetPart == some []) || full == some [] || datePart cs == some [] || timePart cs == some []

def readDatetime (s : String) : Except String String :=
  let t := String.ofList (s.toList.map fun c => if c = 'z' then 'Z' else if c = 't' || c = ' ' then 'T' else c)
  if isDatetime t.toList then .ok t else .error ("invalid datetime: " ++ Text.quoted t)

def codeChar (digits : List Char) : Option Char :=
  (digitsValue 16 digits).bind fun n =>
    if n < 0xD800 || (0xE000 ≤ n && n ≤ 0x10FFFF) then some (Char.ofNat n) else none

def simpleEscape (c : Char) : Option Char :=
  if c = 'b' then some '\x08'
  else if c = 't' then some '\t'
  else if c = 'n' then some '\n'
  else if c = 'f' then some '\x0c'
  else if c = 'r' then some '\r'
  else if c = '"' then some '"'
  else if c = '\\' then some '\\'
  else none

def unescape : List Char → Except String (List Char)
  | [] => .ok []
  | '\\' :: c :: rest =>
    match simpleEscape c with
    | some x => do pure (x :: (← unescape rest))
    | none =>
      if c = 'u' then
        match codeChar (rest.take 4) with
        | some x => do pure (x :: (← unescape (rest.drop 4)))
        | none => .error ("Escaped character '\\u" ++ String.ofList (rest.take 4) ++ "' is not valid UTF-8.")
      else if c = 'U' then
        match codeChar (rest.take 8) with
        | some x => do pure (x :: (← unescape (rest.drop 8)))
        | none => .error ("Escaped character '\\u" ++ String.ofList (rest.take 8) ++ "' is not valid UTF-8.")
      else .error ("invalid escape: '\\" ++ c.toString ++ "'")
  | c :: rest => do pure (c :: (← unescape rest))
termination_by cs => cs.length
decreasing_by all_goals simp only [List.length_cons, List.length_drop]; omega

def isLineBlank (c : Char) : Bool := c = ' ' || c = '\t'

def dropLineEnds : List Char → List Char
  | [] => []
  | '\\' :: '\\' :: rest => '\\' :: '\\' :: dropLineEnds rest
  | '\\' :: rest =>
    let ws := rest.takeWhile (fun c => isLineBlank c || c = '\r' || c = '\n')
    if !ws.isEmpty && ws.contains '\n' then dropLineEnds (rest.drop ws.length)
    else '\\' :: dropLineEnds rest
  | c :: rest => c :: dropLineEnds rest
termination_by cs => cs.length
decreasing_by all_goals simp only [List.length_cons, List.length_drop]; omega

def dropFirstBreak : List Char → List Char
  | '\r' :: '\n' :: rest => rest
  | '\n' :: rest => rest
  | cs => cs

end Issuance.Toml
