import Issuance.Sql.Format
import Issuance.Sql.Function
import Issuance.Sql.Pattern
import Issuance.Sql.Schema
/-! # Operators on values

Comparisons convert by affinity; a missing value compares as none, but `IS`
takes two as equal. Overflowing integers are redone as reals; division by
zero has no value; bit operators act on 64-bit words. -/
namespace Issuance.Sql

open Decimal

def Collation.ofName (n : String) : Collation :=
  if sameName n "NOCASE" then .nocase else if sameName n "RTRIM" then .rtrim else .binary

def compareAffinity (a b : Affinity) : Affinity :=
  if a ≠ .none && b ≠ .none then (if a.isNumeric || b.isNumeric then .numeric else .blob)
  else if a = .none then b else a

def castAffinity (t : String) : Affinity := if t.isEmpty then .numeric else Affinity.ofType t

def Value.forComparison (aff : Affinity) (v : Value) : Value :=
  match v with
  | .text s => if aff.isNumeric then numericText false s else v
  | .int _ | .real _ => if aff = .text then .text v.textBytes else v
  | _ => v

def compareValues (aff : Affinity) (coll : Collation) (a b : Value) : Option Ordering :=
  match a, b with
  | .null, _ | _, .null => none
  | .int x, .int y => some (Ord.compare x y)
  | _, _ => some ((a.forComparison aff).compare coll (b.forComparison aff))

def sameValues (aff : Affinity) (coll : Collation) (a b : Value) : Bool :=
  match a, b with
  | .null, .null => true
  | .null, _ | _, .null => false
  | _, _ => compareValues aff coll a b = some .eq

def Value.ofBool (b : Bool) : Value := .int (if b then 1 else 0)

def comparisonHolds (op : BinOp) (o : Ordering) : Bool :=
  match op with
  | .eq | .is => o = .eq
  | .ne | .isNot => o ≠ .eq
  | .lt => o = .lt
  | .le => o ≠ .gt
  | .gt => o = .gt
  | .ge => o ≠ .lt
  | _ => false

def BinOp.compares : BinOp → Bool
  | .eq | .ne | .lt | .le | .gt | .ge | .is | .isNot => true
  | _ => false

def compareOp (op : BinOp) (aff : Affinity) (coll : Collation) (a b : Value) : Value :=
  match op with
  | .is => Value.ofBool (sameValues aff coll a b)
  | .isNot => Value.ofBool (!sameValues aff coll a b)
  | _ =>
    match compareValues aff coll a b with
    | some o => Value.ofBool (comparisonHolds op o)
    | none => .null

/-! ## Arithmetic -/

def intArith (op : BinOp) (x y : Int) : Option Value :=
  let checked := fun (r : Int) => if fits r then some (Value.int r) else none
  match op with
  | .add => checked (x + y)
  | .sub => checked (x - y)
  | .mul => checked (x * y)
  | .div => if y = 0 then some .null else if x = minInt && y = -1 then none else some (.int (x.tdiv y))
  | .rem => if y = 0 then some .null else if y = -1 then some (.int 0) else some (.int (x.tmod y))
  | _ => some .null

def realArith (op : BinOp) (a b : Value) : Value :=
  let x := a.toReal
  let y := b.toReal
  let r : Option Binary64 := match op with
    | .add => some (x.add y)
    | .sub => some (x.sub y)
    | .mul => some (x.mul y)
    | .div => if y.isZero then none else some (x.div y)
    | .rem =>
      let d := b.toInt
      if d = 0 then none else some (toReal (a.toInt.tmod (if d = -1 then 1 else d)))
    | _ => none
  match r with
  | some v => if v.isNaN then .null else .real v
  | none => .null

def arith (op : BinOp) (a b : Value) : Value :=
  match numeric a, numeric b with
  | .int x, .int y =>
    match intArith op x y with
    | some v => v
    | none => realArith op (.int x) (.int y)
  | .null, _ | _, .null => .null
  | _, _ => realArith op a b

def shiftBy (left : Bool) (x k : Int) : Int :=
  if k = 0 then x else
  let (left, k) := if k < 0 then (!left, if k > -64 then -k else 64) else (left, k)
  if k ≥ 64 then (if x ≥ 0 || left then 0 else -1)
  else if left then ofWord (toWord x * Nat.pow 2 k.toNat)
  else x.fdiv (Nat.pow 2 k.toNat : Nat)

def bitOp (op : BinOp) (a b : Value) : Value :=
  match a, b with
  | .null, _ | _, .null => .null
  | _, _ =>
    let x := a.toInt
    let y := b.toInt
    match op with
    | .bitAnd => .int (ofWord (toWord x &&& toWord y))
    | .bitOr => .int (ofWord (toWord x ||| toWord y))
    | .shl => .int (shiftBy true x y)
    | .shr => .int (shiftBy false x y)
    | _ => .null

def concatValues (a b : Value) : Value :=
  match a, b with
  | .null, _ | _, .null => .null
  | _, _ => .text (a.textBytes ++ b.textBytes)

def numerify (v : Value) : Value :=
  match v with
  | .text _ | .blob _ =>
    let cs := numberChars v
    let (r, rc) := readReal cs
    let (i, irc) := readInt cs
    if (rc = 0 || rc = 1) && irc ≤ 1 then .int i
    else if sameAsInt r then .int (realToInt r)
    else .real r
  | _ => v

def castValue (t : String) (v : Value) : Value :=
  match v with
  | .null => .null
  | _ =>
    match castAffinity t with
    | .blob => .blob v.textBytes
    | .text => .text v.textBytes
    | .numeric => numerify v
    | .integer => .int v.toInt
    | .real => .real v.toReal
    | .none => v

def notValue : Value → Value
  | .null => .null
  | v => Value.ofBool !v.truthy

def andValues (a b : Value) : Value :=
  match a, b with
  | .null, .null => .null
  | .null, v | v, .null => if v.truthy then .null else Value.ofBool false
  | _, _ => Value.ofBool (a.truthy && b.truthy)

def orValues (a b : Value) : Value :=
  match a, b with
  | .null, .null => .null
  | .null, v | v, .null => if v.truthy then Value.ofBool true else .null
  | _, _ => Value.ofBool (a.truthy || b.truthy)

def unaryValue (op : UnOp) (v : Value) : Value :=
  match op with
  | .neg => arith .sub (.int 0) v
  | .pos => v
  | .not => notValue v
  | .bitNot =>
    match v with
    | .null => .null
    | _ => .int (-v.toInt - 1)

/-! ## Patterns -/

def patternLimit : Nat := 50000

def Value.isBlob : Value → Bool
  | .blob _ => true
  | _ => false

def likeValue (pat str : Value) (esc : Option Value) : Except Failure Value :=
  if pat.isBlob || str.isBlob then .ok (Value.ofBool false) else
  if pat.byteCount > patternLimit then .error (.logic "LIKE or GLOB pattern too complex") else
  match esc with
  | some .null => .ok .null
  | some e =>
    let eb := untilNul e.textBytes
    if charCount eb ≠ 1 then .error (.logic "ESCAPE expression must be a single character") else
    let c := (readChar eb).1
    match pat, str with
    | .null, _ | _, .null => .ok .null
    | _, _ => .ok (Value.ofBool (Pattern.matches (likeRulesWith false c) (some c)
        (codePoints pat.textBytes) (codePoints str.textBytes)))
  | none =>
    match pat, str with
    | .null, _ | _, .null => .ok .null
    | _, _ => .ok (Value.ofBool (Pattern.matches (likeRules false) none
        (codePoints pat.textBytes) (codePoints str.textBytes)))

def globValue (pat str : Value) : Except Failure Value :=
  if pat.isBlob || str.isBlob then .ok (Value.ofBool false) else
  if pat.byteCount > patternLimit then .error (.logic "LIKE or GLOB pattern too complex") else
  match pat, str with
  | .null, _ | _, .null => .ok .null
  | _, _ => .ok (Value.ofBool (Pattern.matches globRules none (codePoints pat.textBytes) (codePoints str.textBytes)))

theorem arith_null_left (op : BinOp) (b : Value) : arith op .null b = .null := by
  cases b <;> simp [arith, numeric]

theorem compareValues_null (aff : Affinity) (coll : Collation) (b : Value) :
    compareValues aff coll .null b = none := rfl

end Issuance.Sql
