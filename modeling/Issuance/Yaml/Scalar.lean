import Issuance.Decimal.Binary
import Issuance.Text.Instant
import Issuance.Text.Base64
import Issuance.Text.Utf8
/-! # Resolving YAML scalars

Under the core schema, empty text is null; a numeral with underscores
dropped is whole within 64 bits, else a float if it rounds finite; a date
has date, time and zone parts. A tag asks for a kind; one outside the
schema keeps the text. -/
namespace Issuance.Yaml

open Decimal

def Tag.null : String := "!!null"

def Tag.bool : String := "!!bool"

def Tag.str : String := "!!str"

def Tag.int : String := "!!int"

def Tag.float : String := "!!float"

def Tag.timestamp : String := "!!timestamp"

def Tag.seq : String := "!!seq"

def Tag.map : String := "!!map"

def Tag.binary : String := "!!binary"

def Tag.merge : String := "!!merge"

def Tag.corePrefix : String := "tag:yaml.org,2002:"

def Tag.short (t : String) : String :=
  if t.startsWith Tag.corePrefix then "!!" ++ String.ofList (t.toList.drop Tag.corePrefix.length) else t

inductive Resolved
  | null
  | bool (b : Bool)
  | int (i : Int)
  | uint (n : Nat)
  | float (f : Binary64)
  | timestamp
  | str (s : String)
  deriving DecidableEq, Repr

def Resolved.tag : Resolved → String
  | .null => Tag.null
  | .bool _ => Tag.bool
  | .int _ | .uint _ => Tag.int
  | .float _ => Tag.float
  | .timestamp => Tag.timestamp
  | .str _ => Tag.str

def spelledValues : List (String × Resolved) :=
  [("true", .bool true), ("True", .bool true), ("TRUE", .bool true),
    ("false", .bool false), ("False", .bool false), ("FALSE", .bool false),
    ("", .null), ("~", .null), ("null", .null), ("Null", .null), ("NULL", .null),
    (".nan", .float .nan), (".NaN", .float .nan), (".NAN", .float .nan),
    (".inf", .float (.infinite false)), (".Inf", .float (.infinite false)), (".INF", .float (.infinite false)),
    ("+.inf", .float (.infinite false)), ("+.Inf", .float (.infinite false)), ("+.INF", .float (.infinite false)),
    ("-.inf", .float (.infinite true)), ("-.Inf", .float (.infinite true)), ("-.INF", .float (.infinite true))]

def basePrefix : List Char → Nat × List Char
  | '0' :: c :: r@(_ :: _) =>
    if c = 'b' || c = 'B' then (2, r)
    else if c = 'o' || c = 'O' then (8, r)
    else if c = 'x' || c = 'X' then (16, r)
    else (8, c :: r)
  | '0' :: r => (8, r)
  | r => (10, r)

def unsignedText? (cs : List Char) : Option Nat :=
  if cs.isEmpty then none else
  let (base, ds) := basePrefix cs
  match digitsValue base ds with
  | some n => if n < Nat.pow 2 64 then some n else none
  | none => none

def signedText? (cs : List Char) : Option Int :=
  let (neg, body) := match cs with
    | '-' :: r => (true, r)
    | '+' :: r => (false, r)
    | r => (false, r)
  match unsignedText? body with
  | some n =>
    if neg then (if n ≤ Nat.pow 2 63 then some (-(n : Int)) else none)
    else if n < Nat.pow 2 63 then some n else none
  | none => none

def radixUnsigned? (base : Nat) (ds : List Char) : Option Nat :=
  if ds.isEmpty then none else
  match digitsValue base ds with
  | some n => if n < Nat.pow 2 64 then some n else none
  | none => none

def radixSigned? (base : Nat) (cs : List Char) : Option Int :=
  let (neg, ds) := match cs with
    | '-' :: r => (true, r)
    | '+' :: r => (false, r)
    | r => (false, r)
  match radixUnsigned? base ds with
  | some n =>
    if neg then (if n ≤ Nat.pow 2 63 then some (-(n : Int)) else none)
    else if n < Nat.pow 2 63 then some n else none
  | none => none

def prefixedWhole? (cs : List Char) : Option Resolved :=
  let signedOr (base : Nat) (rest : List Char) : Option Resolved :=
    match radixSigned? base rest with
    | some i => some (.int i)
    | none => (radixUnsigned? base rest).map .uint
  match cs with
  | '0' :: 'b' :: rest => signedOr 2 rest
  | '-' :: '0' :: 'b' :: rest => (radixSigned? 2 ('-' :: rest)).map .int
  | '0' :: 'o' :: rest => signedOr 8 rest
  | '-' :: '0' :: 'o' :: rest => (radixSigned? 8 ('-' :: rest)).map .int
  | _ => none

def decimalFloat? (cs : List Char) : Option Binary64 :=
  match decimalParts cs with
  | some (neg, m, e) =>
    let f := Binary64.ofDecimal neg m e
    if f.isFinite then some f else none
  | none => none

def underscoresBetweenDigits (cs : List Char) : Bool :=
  let body := match cs with
    | '-' :: r | '+' :: r => r
    | r => r
  let step (saw : Option Char) (c : Char) : Option Char :=
    match saw with
    | none => none
    | some s =>
      if c.isDigit then some '0'
      else if c = '_' then (if s = '0' then some '_' else none)
      else if s = '_' then none
      else some '!'
  match body.foldl step (some '^') with
  | some s => s ≠ '_'
  | none => false

def timestampLayouts : List (List Text.Piece) :=
  let date := [Text.Piece.year, .lit "-", .month false, .lit "-", .day false]
  let time := [Text.Piece.hour, .lit ":", .minute false, .lit ":", .second false, .fraction]
  [date ++ [.lit "T"] ++ time ++ [.zone true], date ++ [.lit "t"] ++ time ++ [.zone true],
    date ++ [.lit " "] ++ time, date]

def isTimestamp (s : String) : Bool :=
  let cs := s.toList
  (cs.take 4).all Char.isDigit && cs[4]? == some '-' &&
    timestampLayouts.any fun l => (Text.parseLayout l s).toBool

def resolveText (tag : String) (s : String) : Resolved :=
  let cs := s.toList
  let hint := match cs.head? with
    | none => 'N'
    | some c =>
      if c.isDigit then 'D' else if c = '+' || c = '-' then 'S' else if c = '.' then '.'
      else if "yYnNtTfFoO~".toList.contains c then 'M' else '0'
  if hint = '0' || tag = Tag.str || tag = Tag.binary then .str s else
  match spelledValues.lookup s with
  | some r => r
  | none =>
    if hint = '.' then
      if underscoresBetweenDigits cs then
        match decimalFloat? (cs.filter (· ≠ '_')) with
        | some f => .float f
        | none => .str s
      else .str s
    else if hint = 'D' || hint = 'S' then
      if (tag = "" || tag = Tag.timestamp) && isTimestamp s then .timestamp else
      let plain := cs.filter (· ≠ '_')
      match signedText? plain with
      | some i => .int i
      | none =>
        match unsignedText? plain with
        | some n => .uint n
        | none =>
          match decimalFloat? plain with
          | some f => .float f
          | none => (prefixedWhole? plain).getD (.str s)
    else .str s

def resolvable (tag : String) : Bool :=
  tag = "" || [Tag.str, Tag.bool, Tag.int, Tag.float, Tag.timestamp, Tag.null].contains tag

def resolve (tag : String) (s : String) : Except String (String × Resolved) :=
  let tag := Tag.short tag
  if !resolvable tag then .ok (tag, .str s) else
  let r := resolveText tag s
  let fault := "cannot decode " ++ r.tag ++ " `" ++ s ++ "` as a " ++ tag
  if tag = "" || tag = r.tag || tag = Tag.str then .ok (r.tag, r)
  else if tag = Tag.float then
    match r with
    | .int i => .ok (Tag.float, .float (Binary64.ofInt i))
    | _ => .error fault
  else .error fault

def binaryText? (s : String) : Option String :=
  match Text.Base64.standard.decode s with
  | .ok bs => some (Bytes.toTextLossy bs)
  | .error _ => none

def Resolved.toUnsigned? (bits : Nat) : Resolved → Option Nat
  | .int i => if 0 ≤ i ∧ i < Int.pow 2 bits then some i.toNat else none
  | .uint n => if n < Nat.pow 2 bits then some n else none
  | .float f =>
    if f.atMostPow2 64 then
      let w := f.toUInt64Word
      if w < Nat.pow 2 bits then some w else none
    else none
  | _ => none

def Resolved.toSigned? : Resolved → Option Int
  | .int i => some i
  | .float f => if f.atMostPow2 63 then some f.toInt64Word else none
  | _ => none

def Resolved.toFlag? : Resolved → Option Bool
  | .bool b => some b
  | .str s =>
    if ["y", "Y", "yes", "Yes", "YES", "on", "On", "ON"].contains s then some true
    else if ["n", "N", "no", "No", "NO", "off", "Off", "OFF"].contains s then some false
    else none
  | _ => none

end Issuance.Yaml
