import Issuance.Text.Hex
/-! # Tokens of a statement

Blanks and comments separate tokens; words, quoted names, text, `X'…'`,
numbers and variables follow the database's rules. What cannot start a
token is illegal, reported only when reached; the text ends at a NUL. -/
namespace Issuance.Sql

inductive TokenKind
  | word
  | quotedId (doubleQuoted : Bool)
  | string
  | blob
  | integer
  | float
  | variable
  | symbol
  | illegal
  deriving DecidableEq, Repr, Inhabited

structure Token where
  kind : TokenKind
  value : String
  raw : String
  gap : String := ""
  deriving DecidableEq, Repr, Inhabited

def isIdChar (c : Char) : Bool := c.isAlphanum || c = '_' || c = '$' || c.toNat ≥ 128

def isBlank (c : Char) : Bool :=
  c = ' ' || c = '\t' || c = '\n' || c.toNat = 12 || c = '\r' || c.toNat = 0xFEFF

def isHexDigit (c : Char) : Bool := c.isDigit || ('a' ≤ c && c ≤ 'f') || ('A' ≤ c && c ≤ 'F')

def quotedBody (q : Char) : List Char → Option (List Char × Nat)
  | [] => none
  | c :: rest =>
    if c = q then
      match rest with
      | d :: rest' =>
        if d = q then (quotedBody q rest').map fun (v, n) => (q :: v, n + 2) else some ([], 1)
      | [] => some ([], 1)
    else (quotedBody q rest).map fun (v, n) => (c :: v, n + 1)

def startsHex : List Char → Bool
  | '0' :: x :: h :: _ => (x = 'x' || x = 'X') && isHexDigit h
  | _ => false

def numberLength (cs : List Char) : Nat × Bool :=
  let whole := (cs.takeWhile Char.isDigit).length
  let rest := cs.drop whole
  let (n, isFloat, rest) := match rest with
    | '.' :: r => let f := (r.takeWhile Char.isDigit).length; (whole + 1 + f, true, r.drop f)
    | r => (whole, false, r)
  match rest with
  | e :: s :: d :: _ =>
    if (e = 'e' || e = 'E') && (s.isDigit || ((s = '+' || s = '-') && d.isDigit)) then
      (n + 2 + ((rest.drop 2).takeWhile Char.isDigit).length, true)
    else (n, isFloat)
  | [e, s] =>
    if (e = 'e' || e = 'E') && s.isDigit then (n + 2, true) else (n, isFloat)
  | _ => (n, isFloat)

def variableLength (cs : List Char) : Nat × Bool :=
  match cs with
  | '?' :: rest => (1 + (rest.takeWhile Char.isDigit).length, true)
  | _ :: rest =>
    let rec go : Nat → List Char → Nat → Nat × Nat
      | 0, _, n => (0, n)
      | _ + 1, [], n => (0, n)
      | fuel + 1, c :: r, n =>
        if isIdChar c then let (k, n') := go fuel r (n + 1); (k + 1, n')
        else match c, r with
          | ':', ':' :: r' => let (k, n') := go fuel r' n; (k + 2, n')
          | _, _ => (0, n)
    let (k, n) := go rest.length rest 0
    (1 + k, n > 0)
  | [] => (0, false)

def nextToken (cs : List Char) : Option Token × Nat :=
  let take (kind : TokenKind) (n : Nat) (value : Option String := none) : Option Token × Nat :=
    let raw := String.ofList (cs.take n)
    (some ⟨kind, value.getD raw, raw, ""⟩, n)
  match cs with
  | [] => (none, 0)
  | c :: rest =>
    if isBlank c then (none, 1)
    else match c, rest with
      | '-', '-' :: r => (none, 2 + (r.takeWhile (· ≠ '\n')).length)
      | '-', '>' :: '>' :: _ => take .symbol 3
      | '-', '>' :: _ => take .symbol 2
      | '/', '*' :: r@(_ :: _) =>
        let rec close : Nat → List Char → Nat
          | 0, _ => 0
          | _ + 1, [] => 0
          | fuel + 1, x :: r' => match x, r' with
            | '*', '/' :: _ => 2
            | _, _ => 1 + close fuel r'
        (none, 2 + close r.length r)
      | '=', '=' :: _ => take .symbol 2
      | '<', '=' :: _ | '<', '>' :: _ | '<', '<' :: _ => take .symbol 2
      | '>', '=' :: _ | '>', '>' :: _ => take .symbol 2
      | '!', '=' :: _ => take .symbol 2
      | '!', _ => take .illegal 1
      | '|', '|' :: _ => take .symbol 2
      | '.', d :: _ =>
        if d.isDigit then let (n, _) := numberLength cs; illegalAfter cs n .float else take .symbol 1
      | '\'', _ =>
        match quotedBody '\'' rest with
        | some (v, n) => take .string (n + 1) (some (String.ofList v))
        | none => take .illegal cs.length
      | '"', _ | '`', _ =>
        match quotedBody c rest with
        | some (v, n) => take (.quotedId (c = '"')) (n + 1) (some (String.ofList v))
        | none => take .illegal cs.length
      | '[', _ =>
        let inner := rest.takeWhile (· ≠ ']')
        if inner.length < rest.length then take (.quotedId false) (inner.length + 2) (some (String.ofList inner))
        else take .illegal cs.length
      | 'x', '\'' :: r | 'X', '\'' :: r =>
        let ds := r.takeWhile isHexDigit
        match r.drop ds.length with
        | '\'' :: _ =>
          if ds.length % 2 = 0 then take .blob (ds.length + 3) (some (String.ofList ds))
          else take .illegal (ds.length + 3)
        | more =>
          let upto := more.takeWhile (· ≠ '\'')
          let n := 2 + ds.length + upto.length
          take .illegal (if upto.length < more.length then n + 1 else n)
      | '?', _ => take .variable (variableLength cs).1
      | '$', _ | '@', _ | ':', _ | '#', _ =>
        let (n, named) := variableLength cs
        take (if named then .variable else .illegal) n
      | _, _ =>
        if startsHex cs then take .integer (2 + ((cs.drop 2).takeWhile isHexDigit).length)
        else if c.isDigit then
          let (n, isFloat) := numberLength cs
          illegalAfter cs n (if isFloat then .float else .integer)
        else if isIdChar c then take .word (1 + (rest.takeWhile isIdChar).length)
        else if "(),;+-*/%&|~<>=.".toList.contains c then take .symbol 1
        else take .illegal 1
where
  /-- A number token, illegal when letters run on after it. -/
  illegalAfter (cs : List Char) (n : Nat) (kind : TokenKind) : Option Token × Nat :=
    let extra := ((cs.drop n).takeWhile isIdChar).length
    let raw := String.ofList (cs.take (n + extra))
    (some ⟨if extra > 0 then .illegal else kind, raw, raw, ""⟩, n + extra)

def tokenize (s : String) : List Token :=
  go (s.length + 1) (s.toList.takeWhile (·.toNat ≠ 0)) []
where
  go : Nat → List Char → List Char → List Token
    | 0, _, _ => []
    | _ + 1, [], _ => []
    | fuel + 1, cs@(_ :: _), gap =>
      let (t, n) := nextToken cs
      let k := max n 1
      let rest := cs.drop k
      match t with
      | some t => { t with gap := String.ofList gap.reverse } :: go fuel rest []
      | none => go fuel rest ((cs.take k).reverse ++ gap)

def tokensText : List Token → String
  | [] => ""
  | t :: rest => t.raw ++ String.join (rest.map fun u => u.gap ++ u.raw)

end Issuance.Sql
