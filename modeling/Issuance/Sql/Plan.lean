import Issuance.Sql.Schema
/-! # How a statement reads one table

In rowid order or through an index, forwards or backwards, chosen as the
planner does without statistics: an equality, else a range, else a sort on
the rowid or an index's first column. -/
namespace Issuance.Sql

structure Walk where
  column : Option Nat := none
  backwards : Bool := false
  key : List Nat := []
  deriving DecidableEq, Repr

def conjuncts : Nat → Expr → List Expr
  | 0, e => [e]
  | n + 1, .binary .and a b => conjuncts n a ++ conjuncts n b
  | _ + 1, e => [e]

def Expr.namesOwn : Nat → Expr → Bool
  | 0, _ => true
  | n + 1, e =>
    match e with
    | .bound s _ _ => s = 0
    | .unary _ a | .isNull a _ | .cast a _ | .collate a _ | .field a _ | .truth a _ _ => Expr.namesOwn n a
    | .binary _ a b => Expr.namesOwn n a || Expr.namesOwn n b
    | .call _ args _ _ | .vector args => args.any (Expr.namesOwn n)
    | .case base arms other =>
      (base.map (Expr.namesOwn n)).getD false || arms.any (fun (c, v) => Expr.namesOwn n c || Expr.namesOwn n v) ||
        (other.map (Expr.namesOwn n)).getD false
    | _ => false

def restriction (e : Expr) : Option (Nat × Bool) :=
  let fuel := 64
  let side := fun (a b : Expr) (eq : Bool) => match a with
    | .bound 0 c _ => if Expr.namesOwn fuel b then none else some (c, eq)
    | _ => none
  match e with
  | .binary op a b =>
    let eq := op = .eq || op = .is
    let range := op = .lt || op = .le || op = .gt || op = .ge
    if eq || range then side a b eq <|> side b a eq else none
  | .inList (.bound 0 c _) items false => if items.any (Expr.namesOwn fuel) then none else some (c, true)
  | .inQuery (.bound 0 c _) _ false => some (c, true)
  | .between (.bound 0 c _) lo hi false =>
    if Expr.namesOwn fuel lo || Expr.namesOwn fuel hi then none else some (c, false)
  | .isNull (.bound 0 c _) false => some (c, true)
  | _ => none

def startsIndex (db : Database) (t : Table) (c : Nat) : Bool :=
  db.indexes.any fun i => sameName i.table t.name && i.place == t.place && i.filter.isNone && i.columns.head? = some c

def ownKey (db : Database) (t : Table) : List Nat :=
  if !t.withoutRowid then [] else
  ((db.indexes.find? fun i => sameName i.table t.name && i.place == t.place && i.primary).map (·.columns)).getD []

def chooseWalk (db : Database) (t : Table) (filter : Option Expr) (sort : List (Expr × Bool)) : Walk :=
  let rowid := t.columns.length
  let rs := (filter.map fun f => (conjuncts 64 f).filterMap restriction).getD []
  let usable := fun (c : Nat) => c = rowid || startsIndex db t c
  let sorted : Option (Nat × Bool) := match sort with
    | [(.bound 0 c _, desc)] => if usable c then some (c, desc) else none
    | _ => none
  let through := fun (c : Nat) => if c = rowid then none else some c
  let picked : Option Nat :=
    if rs.any (fun (c, eq) => eq && c = rowid) then some rowid
    else match rs.find? (fun (c, eq) => eq && usable c) with
      | some (c, _) => some c
      | none =>
        match rs.find? (fun (c, _) => usable c) with
        | some (c, _) => some c
        | none => none
  let key := ownKey db t
  match picked with
  | some c =>
    let back := match sorted with
      | some (s, desc) => s = c && desc
      | none => false
    { column := through c, backwards := back, key := key }
  | none =>
    match sorted with
    | some (s, desc) => { column := through s, backwards := desc, key := key }
    | none => { key := key }

def sortByColumns (cols : List Nat) (rows : List Row) : List Row :=
  rows.mergeSort fun a b =>
    let step := fun (acc : Ordering) (c : Nat) =>
      if acc != .eq then acc else (a.values.getD c .null).compare .binary (b.values.getD c .null)
    cols.foldl step .eq != .gt

def Walk.rows (w : Walk) (t : Table) : List Row :=
  let own := if w.key.isEmpty then t.rows else sortByColumns w.key t.rows
  let ordered := match w.column with
    | none => own
    | some c => own.mergeSort fun a b => (a.values.getD c .null).compare .binary (b.values.getD c .null) != .gt
  if w.backwards then ordered.reverse else ordered

end Issuance.Sql
