import Issuance.Sql.Operate
/-! # Ordering rows

Value by value, under the named collation or bytewise, reversed when
descending; the sort is stable. -/
namespace Issuance.Sql

def Expr.collation? : Expr → Option Collation
  | .collate _ c => some (Collation.ofName c)
  | .cast e _ | .unary _ e | .isNull e _ | .field e _ => e.collation?
  | .binary _ a b => a.collation? <|> b.collation?
  | _ => none

def compareRows : List Value → List Value → Ordering
  | [], [] => .eq
  | [], _ => .lt
  | _, [] => .gt
  | x :: xs, y :: ys =>
    match x.compare .binary y with
    | .eq => compareRows xs ys
    | o => o

def compareKeys (terms : List (Expr × Bool)) (a b : List Value) : Ordering :=
  let rec go : List (Expr × Bool) → List Value → List Value → Ordering
    | (t, desc) :: ts, x :: xs, y :: ys =>
      let o := x.compare ((t.collation?).getD .binary) y
      let o := if desc then o.swap else o
      if o = .eq then go ts xs ys else o
    | _, _, _ => .eq
  go terms a b

def sortByKeys (terms : List (Expr × Bool)) (rows : List (List Value × List Value)) :
    List (List Value × List Value) :=
  rows.mergeSort fun a b => compareKeys terms a.2 b.2 != .gt

end Issuance.Sql
