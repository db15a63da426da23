import Issuance.Text.Utf8
import Issuance.Text.Ip
/-! # URLs

Read into scheme, user information, host, path, query and fragment, escapes
decoded, and written back with each part's escaping; bad schemes, escapes,
ports and user information are refused. -/
namespace Issuance.Text.Url

/-- The parts of the text in which escapes follow different rules. -/
inductive Part
  | path
  | host
  | zone
  | userinfo
  | query
  | fragment
  deriving DecidableEq, Repr

def isAlnum (c : Nat) : Bool := (97 ≤ c && c ≤ 122) || (65 ≤ c && c ≤ 90) || (48 ≤ c && c ≤ 57)

def mustEscape (p : Part) (c : Nat) : Bool :=
  let ch := Char.ofNat c
  if isAlnum c then false
  else if (p = .host || p = .zone) && "!$&'()*+,;=:[]<>\"".toList.contains ch then false
  else if "-_.~".toList.contains ch then false
  else if "$&+,/:;=?@".toList.contains ch then
    match p with
    | .path => ch = '?'
    | .userinfo => ch = '@' || ch = '/' || ch = '?' || ch = ':'
    | .query => true
    | .fragment => false
    | .host | .zone => true
  else if p = .fragment && "!()*".toList.contains ch then false
  else true

def hexUpper (n : Nat) : Char := if n < 10 then Char.ofNat (48 + n) else Char.ofNat (55 + n)

def escapeBytes (p : Part) (bs : Bytes) : String :=
  String.ofList (bs.flatMap fun b =>
    let c := b.toNat
    if mustEscape p c then ['%', hexUpper (c / 16), hexUpper (c % 16)] else [Char.ofNat c])

def escape (p : Part) (s : String) : String := escapeBytes p (Bytes.ofString s)

def hexVal (c : Nat) : Option Nat :=
  if 48 ≤ c && c ≤ 57 then some (c - 48)
  else if 97 ≤ c && c ≤ 102 then some (c - 87)
  else if 65 ≤ c && c ≤ 70 then some (c - 55)
  else none

/-- The bytes with escapes decoded; `none` for a bad escape, or in a host or
zone for a byte that it may not hold, written or escaped. -/
def unescapeNats (p : Part) : List Nat → Option (List Nat)
  | [] => some []
  | 37 :: a :: b :: rest =>
    match hexVal a, hexVal b with
    | some x, some y =>
      let v := x * 16 + y
      if p = .host && x < 8 && v ≠ 0x25 then none
      else if p = .zone && v ≠ 0x25 && v ≠ 32 && mustEscape .host v then none
      else (unescapeNats p rest).map (v :: ·)
    | _, _ => none
  | 37 :: _ => none
  | c :: rest =>
    if (p = .host || p = .zone) && c < 128 && mustEscape .host c then none
    else (unescapeNats p rest).map (c :: ·)

def unescapeBytes (p : Part) (s : String) : Option Bytes :=
  (unescapeNats p (s.toUTF8.toList.map UInt8.toNat)).map fun bs => bs.map Nat.toUInt8

def unescape (p : Part) (s : String) : Option String :=
  (unescapeBytes p s).bind fun bs => String.fromUTF8? (ByteArray.mk bs.toArray)

structure UserInfo where
  name : Bytes
  password : Option Bytes
  deriving DecidableEq, Repr

structure Url where
  scheme : String := ""
  body : String := ""
  user : Option UserInfo := none
  host : Bytes := []
  path : Bytes := []
  rawPath : String := ""
  omitHost : Bool := false
  forceQuery : Bool := false
  rawQuery : String := ""
  fragment : Bytes := []
  rawFragment : String := ""
  deriving Repr

/-- Text before and after the first occurrence of `sep`. -/
def cut (s sep : String) : String × String × Bool :=
  match s.splitOn sep with
  | [] => (s, "", false)
  | [a] => (a, "", false)
  | a :: rest => (a, sep.intercalate rest, true)

def cutLast (s : String) (c : Char) : Option (String × String) :=
  let cs := s.toList
  match (cs.zipIdx.filter (·.1 = c)).getLast? with
  | some (_, i) => some (String.ofList (cs.take i), String.ofList (cs.drop (i + 1)))
  | none => none

/-- Scheme and the rest; `none` when the text starts with a colon. -/
def scheme (s : String) : Option (String × String) :=
  let rec go : List Char → List Char → Option (String × String)
    | _, [] => some ("", s)
    | acc, c :: rest =>
      if c.isAlpha then go (c :: acc) rest
      else if c.isDigit || c = '+' || c = '-' || c = '.' then
        if acc.isEmpty then some ("", s) else go (c :: acc) rest
      else if c = ':' then
        if acc.isEmpty then none else some (String.ofList acc.reverse, String.ofList rest)
      else some ("", s)
  go [] s.toList

/-- Whether user information holds only the characters it may. -/
def validUserinfo (s : String) : Bool :=
  s.toList.all fun c => isAlnum c.toNat || "-._:~!$&'()*+,;=%@".toList.contains c

/-- Whether a port suffix is empty or a colon and digits. -/
def validPort (p : String) : Bool :=
  match p.toList with
  | [] => true
  | ':' :: ds => ds.all Char.isDigit
  | _ => false

/-- Whether an IP literal's text, its escapes decoded, is an IPv6 address
(one whose first dot, colon or percent sign is a colon). -/
def isIPv6Literal (bs : Bytes) : Bool :=
  let cs := (Bytes.toTextLossy bs).toList
  cs.find? (fun c => c = '.' || c = ':' || c = '%') == some ':' && Ip.isIPv6 cs

/-- An authority's host: a bracketed IP literal and the port after it,
or the text up to an optional port. -/
def parseHost (h : String) : Option Bytes :=
  match cutLast h '[' with
  | some (before, afterOpen) => do
    if !before.isEmpty then none
    let (inside, port) ← cutLast afterOpen ']'
    if !validPort port then none
    let portBytes ← unescapeBytes .host port
    let (addr, zone, hasZone) := cut inside "%25"
    let literal ← if hasZone then do
        let a ← unescapeBytes .host addr
        let z ← unescapeBytes .zone ("%25" ++ zone)
        pure (a ++ z)
      else unescapeBytes .host inside
    if !isIPv6Literal literal then none
    pure (Bytes.ofString "[" ++ literal ++ Bytes.ofString "]" ++ portBytes)
  | none =>
    match cutLast h ':' with
    | some (_, port) => if validPort (":" ++ port) then unescapeBytes .host h else none
    | none => unescapeBytes .host h

def parseAuthority (a : String) : Option (Option UserInfo × Bytes) :=
  match cutLast a '@' with
  | none => (parseHost a).map fun h => (none, h)
  | some (ui, h) => do
    let host ← parseHost h
    if !validUserinfo ui then none
    else
      let (n, pw, hasColon) := cut ui ":"
      let name ← unescapeBytes .userinfo n
      if hasColon then
        let p ← unescapeBytes .userinfo pw
        pure (some ⟨name, some p⟩, host)
      else pure (some ⟨name, none⟩, host)

def parse (raw : String) : Option Url := do
  let (u, frag, hasFrag) := cut raw "#"
  if u.toList.any (fun c => c.toNat < 32 || c.toNat = 127) then none
  let (sch, rest) ← scheme u
  let sch := sch.toLower
  let (rest, rawQuery, force) :=
    if rest.endsWith "?" && (rest.toList.filter (· = '?')).length = 1 then
      (String.ofList (rest.toList.dropLast), "", true)
    else let (a, b, _) := cut rest "?"; (a, b, false)
  let base : Url := { scheme := sch, rawQuery := rawQuery, forceQuery := force }
  let url ← (if !rest.startsWith "/" && sch != "" then some { base with body := rest }
    else do
      if !rest.startsWith "/" then
        let (seg, _, _) := cut rest "/"
        if seg.contains ':' then none
      let (user, host, rest, skipHost) ←
        if (sch != "" || !rest.startsWith "///") && rest.startsWith "//" then
          let auth := (rest.drop 2).toString
          let (auth, rest) := match auth.splitOn "/" with
            | a :: r@(_ :: _) => (a, "/" ++ "/".intercalate r)
            | _ => (auth, "")
          let (user, host) ← parseAuthority auth
          pure (user, host, rest, false)
        else pure (none, [], rest, sch != "" && rest.startsWith "/")
      let path ← unescapeBytes .path rest
      let rawPath := if escapeBytes .path path = rest then "" else rest
      pure { base with user := user, host := host, path := path, rawPath := rawPath, omitHost := skipHost })
  if hasFrag then
    let f ← unescapeBytes .fragment frag
    pure { url with fragment := f, rawFragment := if escapeBytes .fragment f = frag then "" else frag }
  else pure url

/-- Whether text may stand as written in a part: sub-delimiters, brackets and
escapes are kept, any other byte only if the part does not escape it. -/
def validEncoded (p : Part) (s : String) : Bool :=
  s.toUTF8.toList.all fun b =>
    "!$&'()*+,;=:@[]%".toList.contains (Char.ofNat b.toNat) || !mustEscape p b.toNat

def Url.escapedPath (u : Url) : String :=
  if u.rawPath != "" && validEncoded .path u.rawPath && unescapeBytes .path u.rawPath = some u.path then
    u.rawPath
  else if u.path = Bytes.ofString "*" then "*"
  else escapeBytes .path u.path

/-- The text of a URL. A path that starts with two slashes where no authority
is written has its first slash escaped, so that it is not read back as one. -/
def Url.render (u : Url) : String :=
  let head := if u.scheme != "" then u.scheme ++ ":" else ""
  let body :=
    if u.body != "" then u.body
    else
      let auth :=
        if u.scheme != "" || !u.host.isEmpty || u.user.isSome then
          if u.omitHost && u.host.isEmpty && u.user.isNone then ""
          else
            (if !u.host.isEmpty || !u.path.isEmpty || u.user.isSome then "//" else "") ++
            (match u.user with
              | some ui => escapeBytes .userinfo ui.name ++
                  (match ui.password with
                    | some p => ":" ++ escapeBytes .userinfo p
                    | none => "") ++ "@"
              | none => "") ++
            escapeBytes .host u.host
        else ""
      let slashes := (u.scheme != "" || !u.host.isEmpty || u.user.isSome) &&
        !(u.omitHost && u.host.isEmpty && u.user.isNone) && (!u.host.isEmpty || !u.path.isEmpty || u.user.isSome)
      let path := u.escapedPath
      let path := if !slashes && path.startsWith "//" then "%2F" ++ (path.drop 1).toString else path
      let sep := if path != "" && !path.startsWith "/" && !u.host.isEmpty then "/" else ""
      let prefixDot :=
        if (head ++ auth ++ sep).isEmpty then
          let (seg, _, _) := cut path "/"
          if seg.contains ':' then "./" else ""
        else ""
      auth ++ sep ++ prefixDot ++ path
  let query := if u.forceQuery || u.rawQuery != "" then "?" ++ u.rawQuery else ""
  let frag := if !u.fragment.isEmpty then
      "#" ++ (if u.rawFragment != "" && validEncoded .fragment u.rawFragment &&
          unescapeBytes .fragment u.rawFragment = some u.fragment then
        u.rawFragment else escapeBytes .fragment u.fragment)
    else ""
  head ++ body ++ query ++ frag

/-- The bad escape at the front of some text, as an escape error names it:
at most three characters from the percent sign. -/
def badEscape (cs : List Char) : String :=
  "invalid URL escape " ++ Text.quoted (String.ofList (cs.take 3))

/-- A component of a query string decoded: escapes to bytes, a plus sign
to a space; or the error of its first bad escape. -/
def queryUnescape (s : String) : Except String String :=
  let rec go : List Char → Bytes → Except String Bytes
    | [], acc => .ok acc
    | '%' :: a :: b :: rest, acc =>
      match hexVal a.toNat, hexVal b.toNat with
      | some x, some y => go rest (acc ++ [(x * 16 + y).toUInt8])
      | _, _ => .error (badEscape ('%' :: a :: b :: rest))
    | '%' :: rest, acc => .error (badEscape ('%' :: rest))
    | '+' :: rest, acc => go rest (acc ++ [32])
    | c :: rest, acc => go rest (acc ++ Bytes.ofString (String.singleton c))
  (go s.toList []).map Bytes.toTextLossy

/-- A query string's pairs and the error met: pairs with a semicolon or
a bad escape are dropped; empty pairs skipped. -/
def parseQuery (q : String) : List (String × String) × Option String :=
  (q.splitOn "&").foldl (fun (acc, err) piece =>
    if piece.contains ';' then (acc, some "invalid semicolon separator in query")
    else if piece.isEmpty then (acc, err)
    else
      let (k, v, _) := cut piece "="
      match queryUnescape k, queryUnescape v with
      | .ok k, .ok v => (acc ++ [(k, v)], err)
      | .error e, _ => (acc, err <|> some e)
      | _, .error e => (acc, err <|> some e)) ([], none)

def queryValue (ps : List (String × String)) (key : String) : Option String :=
  (ps.find? (·.1 == key)).map (·.2)

def queryValues (ps : List (String × String)) (key : String) : List String :=
  (ps.filter (·.1 == key)).map (·.2)

end Issuance.Text.Url
