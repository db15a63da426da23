import Issuance.Text.Url
import Issuance.Text.Blank
/-! # Requests and answers

Header names compare in canonical form. Query values come from
`&`-separated pairs cut at `=` and unescaped; a pair with a semicolon or bad
escape is dropped. -/
namespace Issuance.Service

structure Request where
  method : String
  target : String
  headers : List (String × String) := []
  body : String := ""
  deriving Repr

/-- An answer: its status, content type, whether it was replayed from the
cache, and its body text. -/
structure Response where
  status : Nat
  contentType : Option String := some "application/json"
  cacheHit : Bool := false
  body : String := ""
  deriving DecidableEq, Repr

def isTokenChar (c : Char) : Bool :=
  c.isAlphanum || "!#$%&*+-.^_|~".toList.contains c || c.toNat = 39 || c.toNat = 96

def canonicalKey (name : String) : String :=
  if !name.toList.all isTokenChar then name else
  let step := fun (acc : List Char × Bool) (c : Char) =>
    let (out, upper) := acc
    let c' := if upper then c.toUpper else c.toLower
    (c' :: out, c = '-')
  String.ofList ((name.toList.foldl step ([], true)).1.reverse)

def Request.header (r : Request) (name : String) : String :=
  let k := canonicalKey name
  ((r.headers.find? (fun (n, _) => canonicalKey n == k)).map (·.2)).getD ""

def Request.parts (r : Request) : String × String :=
  match r.target.splitOn "?" with
  | [] => ("", "")
  | p :: rest => (p, "?".intercalate rest)

/-- The decoded target path, and the path routed: the raw text unless
decoding then escaping gives it back. -/
def Request.paths (r : Request) : String × String :=
  let (raw, _) := r.parts
  match Text.Url.unescape .path raw with
  | some p => (p, if Text.Url.escape .path p = raw then p else raw)
  | none => (raw, raw)

def unescapeComponent (s : String) : Option String :=
  let bytes := s.toUTF8.toList.map UInt8.toNat
  let rec go : List Nat → Option (List Nat)
    | [] => some []
    | 37 :: a :: b :: rest =>
      match Text.Url.hexVal a, Text.Url.hexVal b with
      | some x, some y => (go rest).map ((x * 16 + y) :: ·)
      | _, _ => none
    | 37 :: _ => none
    | 43 :: rest => (go rest).map (32 :: ·)
    | c :: rest => (go rest).map (c :: ·)
  (go bytes).map fun bs => Bytes.toTextLossy (bs.map Nat.toUInt8)

def queryPairs (raw : String) : List (String × String) :=
  (raw.splitOn "&").filterMap fun pair =>
    if pair.isEmpty || pair.contains ';' then none else
    let (k, v) := match pair.splitOn "=" with
      | [] => ("", "")
      | k :: rest => (k, "=".intercalate rest)
    match unescapeComponent k, unescapeComponent v with
    | some k, some v => some (k, v)
    | _, _ => none

/-- The first value of a query parameter, or empty text. -/
def Request.query (r : Request) (key : String) : String :=
  (((queryPairs r.parts.2).find? (·.1 == key)).map (·.2)).getD ""

def jsonResponse (status : Nat) (body : String) : Response := ⟨status, some "application/json", false, body⟩

def textResponse (status : Nat) (body : String) : Response :=
  ⟨status, some "text/plain; charset=utf-8", false, body⟩

def notFound : Response := textResponse 404 "404 page not found\n"

def notAllowed : Response := ⟨405, none, false, ""⟩

end Issuance.Service
