/-! # JSON documents

A JSON value keeps what a reader needs to answer exactly: object members in
the order they were written, and a number as the text it was written with, so
that a number can be reported back verbatim and read at any precision. -/
namespace Issuance

inductive Json
  | null
  | bool (b : Bool)
  | number (text : String)
  | str (s : String)
  | arr (items : List Json)
  | obj (fields : List (String × Json))
  deriving Inhabited, Repr

namespace Json

def int (n : Int) : Json := .number (toString n)

def nat (n : Nat) : Json := .number (toString n)

/-- The member `k` of an object; of repeated members the last one counts. -/
def field? (j : Json) (k : String) : Option Json :=
  match j with
  | .obj fs => (fs.reverse.find? (·.1 == k)).map (·.2)
  | _ => none

/-- Whether an object has the member `k` with a value other than `null`. -/
def has (j : Json) (k : String) : Bool :=
  match j.field? k with
  | some .null | none => false
  | some _ => true

def hexDigit (n : Nat) : Char :=
  if n < 10 then Char.ofNat (48 + n) else Char.ofNat (87 + n)

def unicodeEscape (n : Nat) : String :=
  "\\u" ++ String.ofList [hexDigit (n / 4096 % 16), hexDigit (n / 256 % 16),
    hexDigit (n / 16 % 16), hexDigit (n % 16)]

/-- How a character is written inside a string: quote, backslash, controls
and the Unicode line separators escaped; with `html` also `<`, `>`, `&`. -/
def escapeChar (html : Bool) (c : Char) : String :=
  if c = '"' then "\\\""
  else if c = '\\' then "\\\\"
  else if c = '\n' then "\\n"
  else if c = '\r' then "\\r"
  else if c = '\t' then "\\t"
  else if c = '\x08' then "\\b"
  else if c = '\x0c' then "\\f"
  else if c.toNat < 32 then unicodeEscape c.toNat
  else if html && (c = '<' || c = '>' || c = '&') then unicodeEscape c.toNat
  else if c.toNat = 0x2028 || c.toNat = 0x2029 then unicodeEscape c.toNat
  else c.toString

def quote (html : Bool) (s : String) : String :=
  "\"" ++ String.join (s.toList.map (escapeChar html)) ++ "\""

mutual
def render (html : Bool) : Json → String
  | .null => "null"
  | .bool true => "true"
  | .bool false => "false"
  | .number t => t
  | .str s => quote html s
  | .arr xs => "[" ++ renderItems html xs ++ "]"
  | .obj fs => "\x7b" ++ renderFields html fs ++ "\x7d"

def renderItems (html : Bool) : List Json → String
  | [] => ""
  | [x] => render html x
  | x :: xs => render html x ++ "," ++ renderItems html xs

def renderFields (html : Bool) : List (String × Json) → String
  | [] => ""
  | [(k, v)] => quote html k ++ ":" ++ render html v
  | (k, v) :: fs => quote html k ++ ":" ++ render html v ++ "," ++ renderFields html fs
end

def compact (j : Json) : String := render false j

mutual
/-- The value with every string in it changed by `f`; names of members are
kept. -/
def mapStrings (f : String → String) : Json → Json
  | .str s => .str (f s)
  | .arr xs => .arr (mapItems f xs)
  | .obj fs => .obj (mapFields f fs)
  | j => j

def mapItems (f : String → String) : List Json → List Json
  | [] => []
  | x :: xs => mapStrings f x :: mapItems f xs

def mapFields (f : String → String) : List (String × Json) → List (String × Json)
  | [] => []
  | (k, v) :: fs => (k, mapStrings f v) :: mapFields f fs
end

end Json

end Issuance
