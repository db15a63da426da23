import Issuance.Sql.Value
import Issuance.Sql.Chars
/-! # LIKE and GLOB patterns

`%`/`*` match any run, `_`/`?` one character; GLOB has bracketed sets, LIKE
folds ASCII case and may name an escape. The search after wildcards stops
early as the database's does. -/
namespace Issuance.Sql

structure PatternRules where
  matchAll : Nat
  matchOne : Option Nat
  matchSet : Bool
  noCase : Bool
  deriving DecidableEq, Repr

def globRules : PatternRules := ⟨42, some 63, true, false⟩

def likeRules (caseSensitive : Bool) : PatternRules := ⟨37, some 95, false, !caseSensitive⟩

def codePoints (b : Bytes) : List Nat := (charPieces (untilNul b)).map codePoint

def foldCode (c : Nat) : Nat := if 65 ≤ c && c ≤ 90 then c + 32 else c

inductive Outcome
  | matched
  | failed
  | failedEverywhere
  deriving DecidableEq, Repr

def sameChar (noCase : Bool) (a b : Nat) : Bool :=
  a = b || (noCase && a < 128 && b < 128 && foldCode a = foldCode b)

def restsAfter (noCase : Bool) (c : Nat) : List Nat → List (List Nat)
  | [] => []
  | x :: xs => if sameChar noCase c x then xs :: restsAfter noCase c xs else restsAfter noCase c xs

def nonEmptyTails : List Nat → List (List Nat)
  | [] => []
  | x :: xs => (x :: xs) :: nonEmptyTails xs

/-- Skip wildcards after a run wildcard: more run wildcards, and single
wildcards that each take one character of the text. `none` when the text
runs out. -/
def skipWildcards (r : PatternRules) : List Nat → List Nat → Option (List Nat × List Nat)
  | [], s => some ([], s)
  | c :: p, s =>
    if c = r.matchAll then skipWildcards r p s
    else if some c = r.matchOne then
      match s with
      | [] => none
      | _ :: s' => skipWildcards r p s'
    else some (c :: p, s)

/-- The body of a set after `[` (and `^` and a leading `]`): whether the
character is in it, and the pattern after its `]`; `none` when it never
closes. -/
def setBody (c : Nat) : List Nat → Option Nat → Bool → Option (Bool × List Nat)
  | [], _, _ => none
  | x :: rest, prior, seen =>
    if x = 93 then some (seen, rest)
    else if x = 45 && prior.isSome then
      match rest with
      | [] => none
      | hi :: rest' =>
        if hi = 93 then some (seen || c == 45, rest')
        else setBody c rest' none (seen || (prior.getD 0 ≤ c && c ≤ hi))
    else setBody c rest (some x) (seen || c == x)

def inSet (c : Nat) (p : List Nat) : Option (Bool × List Nat) :=
  let (invert, p) := match p with
    | 94 :: rest => (true, rest)
    | rest => (false, rest)
  let (seen, p) := match p with
    | 93 :: rest => (c == 93, rest)
    | rest => (false, rest)
  (setBody c p none seen).map fun (s, rest) => (s != invert, rest)

def comparePattern (r : PatternRules) (esc : Option Nat) : Nat → List Nat → List Nat → Outcome
  | 0, _, _ => .failed
  | _ + 1, [], s => if s.isEmpty then .matched else .failed
  | fuel + 1, c :: p, s =>
    let literal (x : Nat) (escaped : Bool) (rest : List Nat) : Outcome :=
      match s with
      | [] => .failed
      | y :: s' =>
        if sameChar r.noCase x y || (!escaped && some x = r.matchOne) then comparePattern r esc fuel rest s'
        else .failed
    let searchFrom (x : Nat) (rest : List Nat) (s : List Nat) : Outcome :=
      match (restsAfter r.noCase x s).findSome? fun s' =>
          match comparePattern r esc fuel rest s' with
          | .failed => none
          | o => some o with
      | some o => o
      | none => .failedEverywhere
    if c = r.matchAll then
      match skipWildcards r p s with
      | none => .failedEverywhere
      | some ([], _) => .matched
      | some (x :: rest, s) =>
        if r.matchSet && x = 91 then
          match (nonEmptyTails s).findSome? fun s' =>
              match comparePattern r esc fuel (x :: rest) s' with
              | .failed => none
              | o => some o with
          | some o => o
          | none => .failedEverywhere
        else if !r.matchSet && some x = esc then
          match rest with
          | [] => .failedEverywhere
          | y :: rest' => searchFrom y rest' s
        else searchFrom x rest s
    else if r.matchSet && c = 91 then
      match s with
      | [] => .failed
      | y :: s' =>
        match inSet y p with
        | some (true, rest) => comparePattern r esc fuel rest s'
        | _ => .failed
    else if !r.matchSet && some c = esc then
      match p with
      | [] => .failed
      | x :: rest => literal x true rest
    else literal c false p

def Pattern.matches (r : PatternRules) (esc : Option Nat) (pattern text : List Nat) : Bool :=
  comparePattern r esc (pattern.length + 1) pattern text = .matched

/-- The rules of LIKE with an escape character: a wildcard used as the escape
stops being a wildcard (a zero code point, which no text holds, stands in
for `%`). -/
def likeRulesWith (caseSensitive : Bool) (esc : Nat) : PatternRules :=
  let r := likeRules caseSensitive
  { r with matchAll := if esc = 37 then 0 else r.matchAll,
           matchOne := if esc = 95 then none else r.matchOne }

end Issuance.Sql
