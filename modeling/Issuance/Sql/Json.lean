import Issuance.Sql.Lex
import Issuance.Sql.Value
import Issuance.Sql.Failure
import Issuance.Sql.Chars
/-! # JSON documents held in values

Numbers and strings keep their text, so a document is written back as read,
without blanks. Paths: `$`, `.key`, `[n]`, `[#]`, `[#-n]`. A removed node
stays, found by key but not written. -/
namespace Issuance.Sql

open Decimal

/-! ## Documents -/

/-- How the key of an object member is held: as read (its text keeps its
quotes and escapes), or added by a path that led past the end of an object
(the bare name). -/
inductive KeyForm
  | standard
  | added
  deriving DecidableEq, Repr

structure JsonKey where
  text : String
  form : KeyForm
  deriving DecidableEq, Repr

def JsonKey.matches (k : JsonKey) (key : String) : Bool :=
  match k.form with
  | .added => k.text == key
  | .standard => String.ofList (k.text.toList.drop 1).dropLast == key

def JsonKey.isPlain (k : JsonKey) : Bool := k.form = .added

def sameKey (a b : JsonKey) : Bool :=
  if a.isPlain then b.matches a.text
  else if b.isPlain then a.matches b.text
  else a.text == b.text

inductive JsonNode
  | null
  | bool (b : Bool)
  | int (text : String)
  | real (text : String)
  | str (text : String)
  | array (items : List JsonNode)
  | object (members : List (JsonKey × JsonNode))
  | removed (n : JsonNode)
  | given (v : Value) (isJson : Bool)
  deriving Repr, Inhabited

def JsonNode.isRemoved : JsonNode → Bool
  | .removed _ => true
  | _ => false

def maxJsonDepth : Nat := 2000

/-! ## Reading -/

def isJsonBlank (c : Char) : Bool := c = ' ' || c = '\t' || c = '\n' || c = '\r'

def hex4 (cs : List Char) : Bool := (cs.take 4).length = 4 && (cs.take 4).all isHexDigit

def stringBody : Nat → List Char → List Char → Option (List Char × List Char)
  | 0, _, _ => none
  | _ + 1, [], _ => none
  | fuel + 1, c :: rest, acc =>
    if c = '"' then some (c :: acc, rest)
    else if c = '\\' then
      match rest with
      | d :: more =>
        if d = '"' || d = '\\' || d = '/' || d = 'b' || d = 'f' || d = 'n' || d = 'r' || d = 't' ||
            (d = 'u' && hex4 more) then
          stringBody fuel more (d :: c :: acc)
        else none
      | [] => none
    else if c.toNat ≤ 0x1f then none
    else stringBody fuel rest (c :: acc)

def isAsciiAlnum (c : Char) : Bool := (c.isAlpha || c.isDigit) && c.toNat < 128

def jsonNumberLength (cs : List Char) : Option (Nat × Bool) :=
  let at_ := fun (k : Nat) => cs.getD k (Char.ofNat 0)
  let start := if at_ 0 = '-' then 1 else 0
  if at_ start = '0' && (at_ (start + 1)).isDigit then none else
  let rec scan : Nat → Nat → Bool → Bool → Option (Nat × Bool)
    | 0, _, _, _ => none
    | fuel + 1, j, seenPoint, seenE =>
      let c := at_ j
      if c.isDigit then scan fuel (j + 1) seenPoint seenE
      else if c = '.' then
        if at_ (j - 1) = '-' || seenPoint then none else scan fuel (j + 1) true seenE
      else if c = 'e' || c = 'E' then
        if (at_ (j - 1)).toNat < 48 || seenE then none else
        let j := if at_ (j + 1) = '+' || at_ (j + 1) = '-' then j + 1 else j
        if (at_ (j + 1)).isDigit then scan fuel (j + 1) true true else none
      else if (at_ (j - 1)).toNat < 48 then none
      else some (j, seenPoint)
  scan (cs.length + 1) 1 false false

inductive Scan
  | node (n : JsonNode) (rest : List Char)
  | closeObject (rest : List Char)
  | closeArray (rest : List Char)
  | finished
  | fail
  deriving Inhabited

def wordAt (cs : List Char) (w : String) : Option (List Char) :=
  if cs.take w.length == w.toList && !isAsciiAlnum (cs.getD w.length ' ') then some (cs.drop w.length)
  else none

mutual

def readValue : Nat → Nat → List Char → Scan
  | 0, _, _ => .fail
  | fuel + 1, depth, cs =>
    match cs.dropWhile isJsonBlank with
    | [] => .finished
    | cs@(c :: rest) =>
      if c = '{' then
        if depth ≥ maxJsonDepth then .fail else readMembers fuel (depth + 1) rest []
      else if c = '[' then
        if depth ≥ maxJsonDepth then .fail else readItems fuel (depth + 1) rest []
      else if c = '"' then
        match stringBody (rest.length + 1) rest [c] with
        | some (body, after) => .node (.str (String.ofList body.reverse)) after
        | none => .fail
      else if c = 'n' then ((wordAt cs "null").map (Scan.node .null)).getD .fail
      else if c = 't' then ((wordAt cs "true").map (Scan.node (.bool true))).getD .fail
      else if c = 'f' then ((wordAt cs "false").map (Scan.node (.bool false))).getD .fail
      else if c = '-' || c.isDigit then
        match jsonNumberLength cs with
        | some (len, isReal) =>
          let text := String.ofList (cs.take len)
          .node (if isReal then .real text else .int text) (cs.drop len)
        | none => .fail
      else if c = '}' then .closeObject rest
      else if c = ']' then .closeArray rest
      else if c.toNat = 0 then .finished
      else .fail

def readMembers : Nat → Nat → List Char → List (JsonKey × JsonNode) → Scan
  | 0, _, _, _ => .fail
  | fuel + 1, depth, cs, acc =>
    match readValue fuel depth cs with
    | .closeObject r => if acc.isEmpty then .node (.object []) r else .fail
    | .node (.str t) r =>
      match r.dropWhile isJsonBlank with
      | ':' :: r' =>
        match readValue fuel depth r' with
        | .node v r2 =>
          let acc := (⟨t, .standard⟩, v) :: acc
          match r2.dropWhile isJsonBlank with
          | ',' :: r3 => readMembers fuel depth r3 acc
          | '}' :: r3 => .node (.object acc.reverse) r3
          | _ => .fail
        | _ => .fail
      | _ => .fail
    | _ => .fail

/-- Read the items of an array after its opening bracket or a comma: a
value, then a comma or the closing bracket. Only an array with no items may
close at once. -/
def readItems : Nat → Nat → List Char → List JsonNode → Scan
  | 0, _, _, _ => .fail
  | fuel + 1, depth, cs, acc =>
    match readValue fuel depth cs with
    | .closeArray r => if acc.isEmpty then .node (.array []) r else .fail
    | .node v r =>
      let acc := v :: acc
      match r.dropWhile isJsonBlank with
      | ',' :: r' => readItems fuel depth r' acc
      | ']' :: r' => .node (.array acc.reverse) r'
      | _ => .fail
    | _ => .fail

end

def readDocument (s : String) : Option JsonNode :=
  let cs := s.toList.takeWhile (·.toNat ≠ 0)
  match readValue (2 * cs.length + 8) 0 cs with
  | .node n rest => if (rest.dropWhile isJsonBlank).isEmpty then some n else none
  | _ => none

/-! ## Writing -/

def hexDigitLower (n : Nat) : Char := if n < 10 then Char.ofNat (48 + n) else Char.ofNat (87 + n)

def quoteJson (s : String) : String :=
  let escape := fun (c : Char) =>
    if c = '"' then "\\\"" else if c = '\\' then "\\\\"
    else if c.toNat ≤ 0x1f then
      match c.toNat with
      | 8 => "\\b"
      | 9 => "\\t"
      | 10 => "\\n"
      | 12 => "\\f"
      | 13 => "\\r"
      | n => "\\u00" ++ String.ofList [hexDigitLower (n / 16), hexDigitLower (n % 16)]
    else c.toString
  "\"" ++ String.join (s.toList.map escape) ++ "\""

def Value.jsonChars (v : Value) : String := String.ofList (byteChars v.textBytes)

def jsonText (s : String) : Value := .text (charBytes s.toList)

def blobInJson : Failure := .logic "JSON cannot hold BLOB values"

def jsonOfValue (v : Value) (isJson : Bool) : Except Failure String :=
  match v with
  | .null => .ok "null"
  | .int i => .ok (toString i)
  | .real r => .ok (realText r)
  | .text b =>
    let s := String.ofList (byteChars b)
    .ok (if isJson then s else quoteJson s)
  | .blob _ => .error blobInJson

def JsonKey.write (k : JsonKey) : String :=
  match k.form with
  | .standard => k.text
  | .added => quoteJson k.text

def JsonNode.write : Nat → JsonNode → Except Failure String
  | 0, _ => .ok ""
  | fuel + 1, node =>
    match node with
    | .null => .ok "null"
    | .bool b => .ok (if b then "true" else "false")
    | .int t => .ok t
    | .real t => .ok t
    | .str t => .ok t
    | .array items => do
      let parts ← (items.filter (!·.isRemoved)).mapM (JsonNode.write fuel)
      pure ("[" ++ ",".intercalate parts ++ "]")
    | .object members => do
      let parts ← (members.filter (!·.2.isRemoved)).mapM fun (k, v) => do
        let w ← JsonNode.write fuel v
        pure (k.write ++ ":" ++ w)
      pure ("\x7b" ++ ",".intercalate parts ++ "\x7d")
    | .removed n => JsonNode.write fuel n
    | .given v j => jsonOfValue v j

/-! ## Values of nodes -/

def utf8Chars (v : Nat) : List Char := byteChars (encodeChar v)

def decodeBody : Nat → List Char → List Char
  | 0, _ => []
  | _ + 1, [] => []
  | fuel + 1, c :: rest =>
    if c ≠ '\\' then c :: decodeBody fuel rest else
    match rest with
    | [] => []
    | d :: more =>
      let hexOf := fun (cs : List Char) => cs.foldl (fun (acc : Nat) x =>
        acc * 16 + (if x.isDigit then x.toNat - 48 else (foldAscii x).toNat - 87)) 0
      if d = 'u' then
        let v := hexOf (more.take 4)
        let after := more.drop 4
        if v = 0 then []
        else if v / 1024 = 0xD800 / 1024 then
          match after with
          | '\\' :: 'u' :: lo =>
            let w := hexOf (lo.take 4)
            if w / 1024 = 0xDC00 / 1024 && (lo.take 4).length = 4 then
              utf8Chars ((v % 1024) * 1024 + w % 1024 + 0x10000) ++ decodeBody fuel (lo.drop 4)
            else utf8Chars v ++ decodeBody fuel after
          | _ => utf8Chars v ++ decodeBody fuel after
        else utf8Chars v ++ decodeBody fuel after
      else if d = 'b' then Char.ofNat 8 :: decodeBody fuel more
      else if d = 'f' then Char.ofNat 12 :: decodeBody fuel more
      else if d = 'n' then '\n' :: decodeBody fuel more
      else if d = 'r' then '\r' :: decodeBody fuel more
      else if d = 't' then '\t' :: decodeBody fuel more
      else d :: decodeBody fuel more

def decodeString (t : String) : String :=
  let body := (t.toList.drop 1).dropLast
  String.ofList (decodeBody (body.length + 1) body)

def intNodeValue (t : String) : Value :=
  let cs := t.toList
  let (neg, body) := match cs with
    | '-' :: r => (true, r)
    | r => (false, r)
  let n := body.foldl (fun (acc : Nat) d => acc * 10 + (d.toNat - 48)) 0
  if n ≤ Nat.pow 2 63 - 1 then .int (if neg then -(n : Int) else n)
  else if neg && n = Nat.pow 2 63 then .int minInt
  else .real (readReal cs).1

/-- The value a node gives a statement, and whether it is JSON text: `true`
and `false` are 1 and 0, a string its text, an array or object its JSON. -/
def JsonNode.value (fuel : Nat) : JsonNode → Except Failure (Value × Bool)
  | .null => .ok (.null, false)
  | .bool b => .ok (.int (if b then 1 else 0), false)
  | .int t => .ok (intNodeValue t, false)
  | .real t => .ok (.real (readReal t.toList).1, false)
  | .str t => .ok (jsonText (decodeString t), false)
  | .removed n => JsonNode.value fuel n
  | .given v j => .ok (v, j)
  | n => do
    let w ← n.write fuel
    pure (jsonText w, true)

def JsonNode.typeName : JsonNode → String
  | .null => "null"
  | .bool true => "true"
  | .bool false => "false"
  | .int .. => "integer"
  | .real .. => "real"
  | .str .. => "text"
  | .array _ => "array"
  | .object _ => "object"
  | .removed n => n.typeName
  | .given _ _ => "null"

/-! ## Paths -/

def pathKey (path : List Char) : Except String (String × List Char) :=
  match path with
  | '"' :: r =>
    let k := r.takeWhile (· ≠ '"')
    if k.length < r.length then .ok (String.ofList k, r.drop (k.length + 1)) else .error (String.ofList path)
  | _ =>
    let k := path.takeWhile fun c => c ≠ '.' && c ≠ '['
    if k.isEmpty then .error (String.ofList path) else .ok (String.ofList k, path.drop k.length)

def digitsNat (ds : List Char) : Nat := ds.foldl (fun acc d => acc * 10 + (d.toNat - 48)) 0

def indexStep (path : List Char) (isArray : Bool) (count : Nat) : Except String (Option (Nat × List Char)) :=
  let r := path.drop 1
  let ds := r.takeWhile Char.isDigit
  let afterDigits := r.drop ds.length
  if !ds.isEmpty && afterDigits.head? = some ']' then
    .ok (if isArray then some (digitsNat ds, afterDigits.drop 1) else none)
  else
    match r with
    | '#' :: r2 =>
      if !isArray then .ok none else
      match r2 with
      | '-' :: d :: _ =>
        if d.isDigit then
          let xs := (r2.drop 1).takeWhile Char.isDigit
          let x := digitsNat xs
          if x > count then .ok none
          else match r2.drop (1 + xs.length) with
            | ']' :: rest => .ok (some (count - x, rest))
            | _ => .error (String.ofList path)
        else .error (String.ofList path)
      | ']' :: rest => .ok (some (count, rest))
      | _ => .error (String.ofList path)
    | _ => .error (String.ofList path)

def liveItems (items : List JsonNode) : List JsonNode := items.filter (!·.isRemoved)

def livePosition (items : List JsonNode) (i : Nat) : Option Nat :=
  let places := (items.zipIdx.filter fun (x, _) => !x.isRemoved).map (·.2)
  places[i]?

def JsonNode.find : Nat → JsonNode → List Char → Except String (Option JsonNode)
  | 0, _, _ => .ok none
  | fuel + 1, node, path =>
    match path with
    | [] => .ok (some node)
    | c :: rest =>
      match node with
      | .given .. => .ok none
      | .removed inner => JsonNode.find fuel inner path
      | _ =>
        if c = '.' then
          match node with
          | .object ms => do
            let (key, after) ← pathKey rest
            match ms.find? (·.1.matches key) with
            | some (_, v) => JsonNode.find fuel v after
            | none => pure none
          | _ => .ok none
        else if c = '[' then do
          let (isArray, items) := match node with
            | .array xs => (true, xs)
            | _ => (false, [])
          let live := liveItems items
          match ← indexStep path isArray live.length with
          | some (i, after) =>
            match live[i]? with
            | some v => JsonNode.find fuel v after
            | none => pure none
          | none => pure none
        else .error (String.ofList path)

mutual

def JsonNode.change : Nat → JsonNode → List Char → (JsonNode → Option JsonNode) → Option JsonNode →
    Except String (Option JsonNode)
  | 0, _, _, _, _ => .ok none
  | fuel + 1, node, path, f, make =>
    match path with
    | [] => .ok (f node)
    | c :: rest =>
      match node with
      | .given .. => .ok none
      | .removed inner => do
        let r ← JsonNode.change fuel inner path f make
        pure (r.map JsonNode.removed)
      | _ =>
        if c = '.' then
          match node with
          | .object ms => do
            let (key, after) ← pathKey rest
            match ms.findIdx? (·.1.matches key) with
            | some i =>
              match ms[i]? with
              | some (k, v) => do
                let r ← JsonNode.change fuel v after f make
                pure (r.map fun v' => .object (ms.set i (k, v')))
              | none => pure none
            | none =>
              match make with
              | some m => do
                let built ← growPath fuel after m
                pure (built.map fun b => .object (ms ++ [(⟨key, .added⟩, b)]))
              | none => pure none
          | _ => .ok none
        else if c = '[' then do
          let (isArray, items) := match node with
            | .array xs => (true, xs)
            | _ => (false, [])
          let count := (liveItems items).length
          match ← indexStep path isArray count with
          | some (i, after) =>
            match livePosition items i with
            | some p =>
              match items[p]? with
              | some v => do
                let r ← JsonNode.change fuel v after f make
                pure (r.map fun v' => .array (items.set p v'))
              | none => pure none
            | none =>
              match make with
              | some m =>
                if i = count then do
                  let built ← growPath fuel after m
                  pure (built.map fun b => .array (items ++ [b]))
                else pure none
              | none => pure none
          | none => pure none
        else .error (String.ofList path)

def growPath : Nat → List Char → JsonNode → Except String (Option JsonNode)
  | 0, _, _ => .ok none
  | fuel + 1, path, m =>
    match path with
    | [] => .ok (some m)
    | '.' :: _ => JsonNode.change fuel (.object []) path (fun _ => none) (some m)
    | '[' :: '0' :: ']' :: _ => JsonNode.change fuel (.array []) path (fun _ => none) (some m)
    | _ => .ok none

end

/-! ## Merging -/

def JsonNode.withoutNulls : Nat → JsonNode → JsonNode
  | 0, n => n
  | fuel + 1, .object ms =>
    .object (ms.map fun (k, v) =>
      match v with
      | .null => (k, .removed .null)
      | .object _ => (k, JsonNode.withoutNulls fuel v)
      | _ => (k, v))
  | _ + 1, n => n

def JsonNode.isObject : JsonNode → Bool
  | .object _ => true
  | _ => false

def mergePatch : Nat → JsonNode → JsonNode → JsonNode
  | 0, _, patch => patch
  | fuel + 1, target, patch =>
    match patch with
    | .object pms =>
      match target with
      | .object tms =>
        let start : List (JsonKey × JsonNode × Bool) × List (JsonKey × JsonNode) := (tms.map fun (k, v) => (k, v, false), [])
        let (kept, added) := pms.foldl (fun (acc : List (JsonKey × JsonNode × Bool) × List (JsonKey × JsonNode)) (pk, pv) =>
          let (kept, added) := acc
          match kept.findIdx? (fun (k, _, _) => sameKey pk k) with
          | some i =>
            match kept[i]? with
            | some (k, tv, done) =>
              if done || tv.isRemoved then acc
              else
                match pv with
                | .null => (kept.set i (k, .removed tv, true), added)
                | _ =>
                  let merged := mergePatch fuel tv pv
                  (kept.set i (k, merged, !(tv.isObject && pv.isObject)), added)
            | none => acc
          | none =>
            match pv with
            | .null => acc
            | _ => (kept, added ++ [(⟨pk.text, .standard⟩, JsonNode.withoutNulls fuel pv)])) start
        .object (kept.map (fun (k, v, _) => (k, v)) ++ added)
      | _ => JsonNode.withoutNulls fuel patch
    | _ => patch

/-! ## The functions -/

def malformedJson : Failure := .logic "malformed JSON"

def pathFailure (near : String) : Failure :=
  .logic ("JSON path error near " ++ String.ofList (Char.ofNat 39 :: ((Bytes.toTextLossy (charBytes near.toList)).toList.flatMap fun c =>
    if c = Char.ofNat 39 then [c, c] else [c]) ++ [Char.ofNat 39]))

def documentOf (v : Value) : Except Failure (Option JsonNode) :=
  match v with
  | .null => .ok none
  | w =>
    match readDocument w.jsonChars with
    | some d => .ok (some d)
    | none => .error malformedJson

def pathAfterRoot (p : String) : Except Failure (List Char) :=
  match p.toList with
  | '$' :: rest => .ok rest
  | _ => .error (pathFailure p)

def findPath (fuel : Nat) (root : JsonNode) (p : String) : Except Failure (Option JsonNode) := do
  let rest ← pathAfterRoot p
  match root.find fuel rest with
  | .ok r => pure r
  | .error near => throw (pathFailure near)

def changePath (fuel : Nat) (root : JsonNode) (p : String) (f : JsonNode → Option JsonNode)
    (make : Option JsonNode) : Except Failure JsonNode := do
  let rest ← pathAfterRoot p
  match root.change fuel rest f make with
  | .ok r => pure (r.getD root)
  | .error near => throw (pathFailure near)

def arrowPath (p : String) : String :=
  let short := match p.toList with
    | c :: _ => if c.isDigit then "$[" ++ p ++ "]" else if c = '[' then "$" ++ p else "$." ++ p
    | [] => "$."
  match p.toList with
  | '$' :: rest =>
    match rest with
    | [] => p
    | c :: _ => if c = '.' || c = '[' then p else short
  | _ => short

def jsonFuel (texts : List String) : Nat := texts.foldl (fun acc t => acc + t.length) 8

def pathText : Value → Option String
  | .null => none
  | v => some (String.ofList (byteChars (untilNul v.textBytes)))

def documentResult (fuel : Nat) (root : JsonNode) : Except Failure (Value × Bool) :=
  match root with
  | .given v j => .ok (v, j)
  | n => do
    let w ← n.write fuel
    pure (jsonText w, true)

def jsonFunctionNames : List String :=
  ["json", "json_valid", "json_type", "json_array_length", "json_extract", "json_quote", "json_array",
    "json_object", "json_set", "json_insert", "json_replace", "json_remove", "json_patch"]

def setPaths (fuel : Nat) (make overwrite : Bool) : List (Value × Bool) → JsonNode → Except Failure JsonNode
  | (p, _) :: (v, j) :: more, root => do
    match pathText p with
    | none => setPaths fuel make overwrite more root
    | some path =>
      let node := JsonNode.given v j
      let root ← changePath fuel root path (fun _ => if overwrite then some node else none)
        (if make then some node else none)
      setPaths fuel make overwrite more root
  | _, root => pure root

def isJsonFunction (name : String) : Bool :=
  jsonFunctionNames.contains (String.ofList (name.toList.map foldAscii))

def jsonSetting (name : String) (make overwrite : Bool) (args : List (Value × Bool)) : Except Failure (Value × Bool) :=
  if args.length % 2 = 0 then .error (.logic (name ++ "() needs an odd number of arguments")) else
  match args with
  | [] => .ok (.null, false)
  | (doc, _) :: pairs => do
    match ← documentOf doc with
    | none => pure (.null, false)
    | some root =>
      let fuel := jsonFuel (doc.jsonChars :: pairs.map (·.1.jsonChars))
      let root ← setPaths fuel make overwrite pairs root
      documentResult fuel root

def removePaths (fuel : Nat) : List (Value × Bool) → JsonNode → Except Failure (Option JsonNode)
  | (p, _) :: more, root => do
    match pathText p with
    | none => pure none
    | some path =>
      let root ← changePath fuel root path (fun n => if n.isRemoved then none else some (.removed n)) none
      removePaths fuel more root
  | [], root => pure (some root)

def objectMembers : List (Value × Bool) → Except Failure (List String)
  | (k, _) :: (v, j) :: more => do
    match k with
    | .text b =>
      let w ← jsonOfValue v j
      let rest ← objectMembers more
      pure ((quoteJson (String.ofList (byteChars b)) ++ ":" ++ w) :: rest)
    | _ => throw (.logic "json_object() labels must be TEXT")
  | _ => pure []

/-- A scalar JSON function applied to its arguments, each with whether it is
JSON text made by a JSON function; the result says the same of itself. -/
def jsonFunction (name : String) (args : List (Value × Bool)) : Except Failure (Value × Bool) :=
  let key := String.ofList (name.toList.map foldAscii)
  let arg := fun (i : Nat) => (args[i]?).getD (.null, false)
  let texts := args.map (·.1.jsonChars)
  let fuel := jsonFuel texts
  match key with
  | "json" => do
    match ← documentOf (arg 0).1 with
    | none => pure (.null, false)
    | some root => documentResult fuel root
  | "json_valid" =>
    match (arg 0).1 with
    | .null => .ok (.null, false)
    | v => .ok (.int (match readDocument v.jsonChars with
        | some _ => 1
        | none => 0), false)
  | "json_type" | "json_array_length" => do
    match ← documentOf (arg 0).1 with
    | none => pure (.null, false)
    | some root =>
      let picked ← if args.length ≥ 2 then
          match pathText (arg 1).1 with
          | none => pure none
          | some p => findPath fuel root p
        else pure (some root)
      match picked with
      | none => pure (.null, false)
      | some n =>
        if key = "json_type" then pure (.str n.typeName, false)
        else
          let count := match n with
            | .array items => (liveItems items).length
            | .removed (.array items) => (liveItems items).length
            | _ => 0
          pure (.int count, false)
  | "json_extract" => do
    if args.length < 2 then return (.null, false)
    match ← documentOf (arg 0).1 with
    | none => pure (.null, false)
    | some root =>
      match args.drop 1 with
      | [(p, _)] =>
        match pathText p with
        | none => pure (.null, false)
        | some path =>
          match ← findPath fuel root path with
          | none => pure (.null, false)
          | some n => n.value fuel
      | paths => do
        let parts ← paths.mapM fun (p, _) => do
          match pathText p with
          | none => pure "null"
          | some path =>
            match ← findPath fuel root path with
            | none => pure "null"
            | some n => n.write fuel
        pure (jsonText ("[" ++ ",".intercalate parts ++ "]"), true)
  | "->" | "->>" => do
    match ← documentOf (arg 0).1 with
    | none => pure (.null, false)
    | some root =>
      match pathText (arg 1).1 with
      | none => pure (.null, false)
      | some p =>
        match ← findPath fuel root (arrowPath p) with
        | none => pure (.null, false)
        | some n =>
          if key = "->" then do
            let w ← n.write fuel
            pure (jsonText w, true)
          else do
            let (v, _) ← n.value fuel
            pure (v, false)
  | "json_quote" => do
    let (v, j) := arg 0
    let w ← jsonOfValue v j
    pure (jsonText w, true)
  | "json_array" => do
    let parts ← args.mapM fun (v, j) => jsonOfValue v j
    pure (jsonText ("[" ++ ",".intercalate parts ++ "]"), true)
  | "json_object" =>
    if args.length % 2 = 1 then .error (.logic "json_object() requires an even number of arguments") else do
    let parts ← objectMembers args
    pure (jsonText ("\x7b" ++ ",".intercalate parts ++ "\x7d"), true)
  | "json_set" => jsonSetting "json_set" true true args
  | "json_insert" => jsonSetting "json_insert" true false args
  | "json_replace" => jsonSetting "json_replace" false true args
  | "json_remove" => do
    match ← documentOf (arg 0).1 with
    | none => pure (.null, false)
    | some root =>
      match ← removePaths fuel (args.drop 1) root with
      | none => pure (.null, false)
      | some (.removed _) => pure (.null, false)
      | some root => documentResult fuel root
  | "json_patch" => do
    match ← documentOf (arg 0).1 with
    | none => pure (.null, false)
    | some target =>
      match ← documentOf (arg 1).1 with
      | none => pure (.null, false)
      | some patch => documentResult fuel (mergePatch fuel target patch)
  | _ => .ok (.null, false)

def jsonGroupArray (rows : List (Value × Bool)) : Except Failure Value := do
  let parts ← rows.mapM fun (v, j) => jsonOfValue v j
  pure (jsonText ("[" ++ ",".intercalate parts ++ "]"))

def jsonGroupObject (rows : List ((Value × Bool) × (Value × Bool))) : Except Failure Value := do
  let parts ← rows.mapM fun ((k, _), (v, j)) => do
    let w ← jsonOfValue v j
    let key := match k with
      | .null => ""
      | _ => quoteJson k.jsonChars
    pure (key ++ ":" ++ w)
  pure (jsonText ("\x7b" ++ ",".intercalate parts ++ "\x7d"))

end Issuance.Sql
