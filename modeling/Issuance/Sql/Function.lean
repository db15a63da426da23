import Issuance.Sql.Value
import Issuance.Sql.Failure
import Issuance.Sql.Chars
/-! # Built-in functions on values

Scalar functions of their arguments alone; case folds ASCII only, and a
function given no value mostly gives none. Text functions work on bytes as
`Sql.Chars` reads them. `arityOk` says which calls are known. -/
namespace Issuance.Sql

open Decimal

def scalarFunctions : List (String × Option (List Nat)) :=
  [("abs", some [1]), ("changes", some [0]), ("char", none), ("coalesce", none), ("format", none),
    ("glob", some [2]), ("hex", some [1]), ("ifnull", some [2]), ("iif", some [3]), ("instr", some [2]),
    ("last_insert_rowid", some [0]), ("length", some [1]), ("like", some [2, 3]), ("likelihood", some [2]),
    ("likely", some [1]), ("lower", some [1]), ("ltrim", some [1, 2]), ("max", none), ("min", none),
    ("nullif", some [2]), ("printf", none), ("quote", some [1]), ("random", some [0]),
    ("randomblob", some [1]), ("replace", some [3]), ("round", some [1, 2]), ("rtrim", some [1, 2]),
    ("sqlite_source_id", some [0]), ("sqlite_version", some [0]), ("substr", some [2, 3]),
    ("substring", some [2, 3]), ("total_changes", some [0]), ("trim", some [1, 2]), ("typeof", some [1]),
    ("unhex", some [1, 2]), ("unicode", some [1]), ("unlikely", some [1]), ("upper", some [1]),
    ("zeroblob", some [1]), ("sqlite_compileoption_get", some [1]), ("sqlite_compileoption_used", some [1]),
    ("load_extension", some [1, 2]), ("soundex", some [1]),
    ("sqlite_offset", some [1]),
    ("date", none), ("time", none), ("datetime", none), ("julianday", none), ("unixepoch", none),
    ("strftime", none), ("current_date", some [0]), ("current_time", some [0]),
    ("current_timestamp", some [0]),
    ("acos", some [1]), ("acosh", some [1]), ("asin", some [1]), ("asinh", some [1]), ("atan", some [1]),
    ("atan2", some [2]), ("atanh", some [1]), ("ceil", some [1]), ("ceiling", some [1]), ("cos", some [1]),
    ("cosh", some [1]), ("degrees", some [1]), ("exp", some [1]), ("floor", some [1]), ("ln", some [1]),
    ("log", some [1, 2]), ("log10", some [1]), ("log2", some [1]), ("mod", some [2]), ("pi", some [0]),
    ("pow", some [2]), ("power", some [2]), ("radians", some [1]), ("sign", some [1]), ("sin", some [1]),
    ("sinh", some [1]), ("sqrt", some [1]), ("tan", some [1]), ("tanh", some [1]), ("trunc", some [1]),
    ("json", some [1]), ("json_array", none), ("json_array_length", some [1, 2]), ("json_extract", none),
    ("json_insert", none), ("json_object", none), ("json_patch", some [2]), ("json_quote", some [1]),
    ("json_remove", none), ("json_replace", none), ("json_set", none), ("json_type", some [1, 2]),
    ("json_valid", some [1]), ("->", some [2]), ("->>", some [2])]

def leastArguments (name : String) : Nat :=
  match name with
  | "coalesce" => 2
  | "max" | "min" => 2
  | "json_extract" | "json_remove" => 1
  | "json_insert" | "json_replace" | "json_set" => 1
  | _ => 0

def aggregateFunctions : List (String × List Nat) :=
  [("avg", [1]), ("count", [0, 1]), ("group_concat", [1, 2]), ("max", [1]), ("min", [1]), ("sum", [1]),
    ("total", [1]), ("json_group_array", [1]), ("json_group_object", [2])]

def windowFunctions : List (String × List Nat) :=
  [("row_number", [0]), ("rank", [0]), ("dense_rank", [0]), ("percent_rank", [0]), ("cume_dist", [0]),
    ("ntile", [1]), ("lag", [1, 2, 3]), ("lead", [1, 2, 3]), ("first_value", [1]), ("last_value", [1]),
    ("nth_value", [2])]

inductive CallKind
  | scalar
  | aggregate
  | window
  | wrongCount
  | unknown
  deriving DecidableEq, Repr

def isWindowFunction (name : String) : Bool :=
  let key := String.ofList (name.toList.map foldAscii)
  windowFunctions.any (·.1 == key)

def isAggregateOnly (name : String) : Bool :=
  let key := String.ofList (name.toList.map foldAscii)
  aggregateFunctions.any (·.1 == key) && !scalarFunctions.any (·.1 == key)

/-- How a call resolves: an aggregate if one takes that count, else a
scalar, else a window function; a known name with another count is a wrong
count. -/
def CallKind.of (name : String) (n : Nat) : CallKind :=
  let key := String.ofList (name.toList.map foldAscii)
  let agg := aggregateFunctions.find? (·.1 == key)
  let sc := scalarFunctions.find? (·.1 == key)
  let win := windowFunctions.find? (·.1 == key)
  if (agg.map (·.2.contains n)).getD false then .aggregate
  else match sc with
    | some (_, none) => if n ≥ leastArguments key then .scalar else .wrongCount
    | some (_, some ns) => if ns.contains n then .scalar else .wrongCount
    | none =>
      match win with
      | some (_, ns) => if ns.contains n then .window else .wrongCount
      | none => if agg.isSome then .wrongCount else .unknown

def Value.text? : Value → Option Bytes
  | .null => none
  | v => some v.textBytes

def Value.byteCount : Value → Nat
  | .null => 0
  | v => v.textBytes.length

def Value.typeName : Value → String
  | .null => "null"
  | .int _ => "integer"
  | .real _ => "real"
  | .text _ => "text"
  | .blob _ => "blob"

def overflow : Failure := .logic "integer overflow"

def lengthLimit : Nat := 1000000000

def upperAscii (c : Char) : Char := if 'a' ≤ c && c ≤ 'z' then Char.ofNat (c.toNat - 32) else c

def absOf : Value → Except Failure Value
  | .null => .ok .null
  | .int i => if i = minInt then .error overflow else .ok (.int i.natAbs)
  | v =>
    let r := v.toReal
    .ok (.real (if r.compare (Binary64.zero false) = .lt then r.negate else r))

def lengthOf : Value → Value
  | .null => .null
  | .text b => .int (charCount b)
  | v => .int v.byteCount

def int32Of (v : Value) : Int :=
  let w := v.toInt % (Nat.pow 2 32 : Nat)
  if w ≥ (Nat.pow 2 31 : Nat) then w - (Nat.pow 2 32 : Nat) else w

def substrOf (x y : Value) (z : Option Value) : Value :=
  if y = .null || z = some .null then .null else
  match x with
  | .null => .null
  | _ =>
    let isBlob := match x with | .blob _ => true | _ => false
    let items : List Bytes := match x with
      | .blob b => b.map fun x => [x]
      | v => charPieces (untilNul v.textBytes)
    let len : Int := items.length
    let p1 : Int := int32Of y
    let (p2, negP2) : Int × Bool := match z with
      | some v => let n := int32Of v; if n < 0 then (-n, true) else (n, false)
      | none => (lengthLimit, false)
    let (p1, p2) : Int × Int :=
      if p1 < 0 then
        let p1 := p1 + len
        if p1 < 0 then (0, max 0 (p2 + p1)) else (p1, p2)
      else if p1 > 0 then (p1 - 1, p2)
      else if p2 > 0 then (p1, p2 - 1) else (p1, p2)
    let (p1, p2) : Int × Int :=
      if negP2 then
        let p1 := p1 - p2
        if p1 < 0 then (0, p2 + p1) else (p1, p2)
      else (p1, p2)
    let piece := ((items.drop p1.toNat).take p2.toNat).flatten
    if isBlob then .blob piece else .text piece

def replaceAll [BEq α] (pat rep : List α) : Nat → List α → List α
  | 0, s => s
  | fuel + 1, s =>
    match s with
    | [] => []
    | c :: rest =>
      if pat.isPrefixOf s then rep ++ replaceAll pat rep fuel (s.drop pat.length)
      else c :: replaceAll pat rep fuel rest

/-- `replace`: every occurrence of the pattern replaced; a pattern that is
empty or starts with a zero character gives the first value back as it is
(bytes as text). -/
def replaceOf (x y z : Value) : Value :=
  match x.text?, y.text? with
  | some s, some p =>
    if p.head?.all (· = 0) then (match x with | .blob _ => .text s | _ => x)
    else match z.text? with
      | some r => .text (replaceAll p r (s.length + 1) s)
      | none => .null
  | _, _ => .null

def trimFront (set : List Bytes) : Nat → Bytes → Bytes
  | 0, s => s
  | fuel + 1, s =>
    match set.find? fun p => !p.isEmpty && p.isPrefixOf s with
    | some p => trimFront set fuel (s.drop p.length)
    | none => s

/-- `trim`, `ltrim` and `rtrim`: characters of a set (a space by default;
the set read up to a zero byte) removed from the left, the right or both. -/
def trimOf (left right : Bool) (x : Value) (y : Option Value) : Value :=
  match x.text? with
  | none => .null
  | some s =>
    let set : Option (List Bytes) := match y with
      | some v => v.text?.map fun t => charPieces (untilNul t)
      | none => some [[32]]
    match set with
    | none => .null
    | some cs =>
      let s := if left then trimFront cs (s.length + 1) s else s
      let s := if right then (trimFront (cs.map List.reverse) (s.length + 1) s.reverse).reverse else s
      .text s

def instrSteps (isText : Bool) (needle : Bytes) : Nat → Bytes → Nat → Nat
  | 0, _, _ => 0
  | fuel + 1, hay, n =>
    if needle.length > hay.length then 0
    else if needle.isPrefixOf hay then n
    else
      let hay := hay.drop 1
      let hay := if isText then hay.dropWhile isContinuation else hay
      instrSteps isText needle fuel hay (n + 1)

/-- `instr`: the position of the first occurrence of the second argument in
the first, in characters (in bytes when both are blobs); one for an empty
needle. -/
def instrOf (x y : Value) : Value :=
  match x, y with
  | .null, _ | _, .null => .null
  | _, _ =>
    let isText := match x, y with | .blob _, .blob _ => false | _, _ => true
    let a := x.textBytes
    let b := y.textBytes
    .int (if b.isEmpty then 1 else instrSteps isText b (a.length + 1) a 1)

def hexUpper (b : Bytes) : String :=
  String.join (b.map fun x => (Text.hexDigits 2 x.toNat).toUpper)

def hexOf (v : Value) : Value := .str (hexUpper v.textBytes)

def charOf (args : List Value) : Value :=
  .text (args.flatMap fun v =>
    let x := v.toInt
    encodeChar (if x < 0 || x > 0x10FFFF then 0xFFFD else x.toNat))

def unicodeOf : Value → Value
  | .null => .null
  | v => match untilNul v.textBytes with
    | [] => .null
    | b => .int (readChar b).1

def typeofOf (v : Value) : Value := .str v.typeName

def nullifOf (x y : Value) : Value := if x.compare .binary y = .eq && x ≠ .null && y ≠ .null then .null else x

def extremeOf (greatest : Bool) : List Value → Value
  | [] => .null
  | v :: vs =>
    if (v :: vs).contains .null then .null
    else vs.foldl (fun acc w =>
      let o := w.compare .binary acc
      if (greatest && o = .gt) || (!greatest && o = .lt) then w else acc) v

def zeroblobOf (v : Value) : Except Failure Value :=
  let n := v.toInt
  if n > lengthLimit then .error .tooBig else .ok (.blob (List.replicate n.toNat 0))

def unhexPairs (pass : Bytes) : Nat → Bytes → Option Bytes
  | 0, _ => some []
  | fuel + 1, cs =>
    match cs with
    | [] => some []
    | c :: rest =>
      if c = 0 then some []
      else if !isHexByte c then
        let (ch, after) := readChar cs
        let low := (ch % 256).toUInt8
        if low = 0 || pass.contains low then unhexPairs pass fuel after else none
      else
        match rest with
        | d :: rest' =>
          if isHexByte d then
            (unhexPairs pass fuel rest').map fun r => (hexByteValue c * 16 + hexByteValue d).toUInt8 :: r
          else none
        | [] => none

def unhexOf (x : Value) (ignore : Option Value) : Value :=
  match x.text?, (match ignore with | some v => v.text? | none => some []) with
  | some s, some pass =>
    match unhexPairs (untilNul pass) (s.length + 1) s with
    | some b => .blob b
    | none => .null
  | _, _ => .null

def signOf (v : Value) : Value :=
  match v with
  | .int i => .int (if i < 0 then -1 else if i > 0 then 1 else 0)
  | .real r => .int (match r.compare (Binary64.zero false) with | .lt => -1 | .gt => 1 | .eq => 0)
  | .text b =>
    match numericText false b with
    | .int i => .int (if i < 0 then -1 else if i > 0 then 1 else 0)
    | .real r => .int (match r.compare (Binary64.zero false) with | .lt => -1 | .gt => 1 | .eq => 0)
    | _ => .null
  | _ => .null

/-! ## The build -/

def versionText : String := "3.41.2"

def sourceId : String :=
  "2023-03-22 11:56:21 0d1fc92f94cb6b76bffe3ec34d69cffde2924203304e8ffc4155597af0c191da"

def compileOptions : List String :=
  ["ATOMIC_INTRINSICS=1", "DEFAULT_MEMSTATUS=0", "ENABLE_COLUMN_METADATA", "ENABLE_DBSTAT_VTAB",
    "ENABLE_FTS5", "ENABLE_GEOPOLY", "ENABLE_MATH_FUNCTIONS", "ENABLE_MEMORY_MANAGEMENT",
    "ENABLE_OFFSET_SQL_FUNC", "ENABLE_PREUPDATE_HOOK", "ENABLE_RBU", "ENABLE_RTREE", "ENABLE_SESSION",
    "ENABLE_SNAPSHOT", "ENABLE_STAT4", "ENABLE_UNLOCK_NOTIFY", "LIKE_DOESNT_MATCH_BLOBS", "MUTEX_APPDEF",
    "MUTEX_NOOP", "SOUNDEX", "SYSTEM_MALLOC", "TEMP_STORE=1", "THREADSAFE=1"]

def isNameChar (c : Char) : Bool := c.isAlphanum || c = '_' || c.toNat ≥ 0x80

def compileOptionUsed (name : Bytes) : Bool :=
  let cs := (byteChars (untilNul name)).map foldAscii
  let cs := if cs.take 7 == "sqlite_".toList then cs.drop 7 else cs
  compileOptions.any fun o =>
    let os := o.toList.map foldAscii
    os.take cs.length == cs && !(os.drop cs.length |>.head?.map isNameChar |>.getD false)

def soundexOf (v : Value) : Value :=
  let codeOf := fun (c : Char) =>
    match foldAscii (Char.ofNat (c.toNat % 128)) with
    | 'b' | 'f' | 'p' | 'v' => 1
    | 'c' | 'g' | 'j' | 'k' | 'q' | 's' | 'x' | 'z' => 2
    | 'd' | 't' => 3
    | 'l' => 4
    | 'm' | 'n' => 5
    | 'r' => 6
    | _ => 0
  let cs := byteChars (untilNul ((v.text?).getD []))
  let isLetter := fun (c : Char) => c.toNat < 128 && c.isAlpha
  match cs.dropWhile (!isLetter ·) with
  | [] => .str "?000"
  | first :: rest =>
    let step := fun (acc : List Nat × Nat) (c : Char) =>
      let (ds, prev) := acc
      let code := codeOf c
      if ds.length ≥ 3 then acc
      else if code > 0 then (if code ≠ prev then (ds ++ [code], code) else acc)
      else (ds, 0)
    let (ds, _) := rest.foldl step ([], codeOf first)
    let ds := ds ++ List.replicate (3 - ds.length) 0
    .str (String.ofList (upperAscii first :: ds.map fun d => Char.ofNat (48 + d)))

end Issuance.Sql
