import Issuance.Sql.Date
import Issuance.Sql.Plan
import Issuance.Sql.Resolve
import Issuance.Sql.Window.Values
import Issuance.Sql.Math
/-! # Evaluating expressions and queries

In a scene of the database, counters, clock and the rows in scope. A bare
column of an aggregate query reads the group's last row. Comparisons
convert by affinity and collate by the left operand, else the right. -/
namespace Issuance.Sql

open Decimal

structure Counters where
  changes : Int := 0
  totalChanges : Int := 0
  lastRowid : Int := 0
  deriving DecidableEq, Repr, Inhabited

structure Scene where
  db : Database
  counters : Counters := {}
  clockMs : Int := 0
  env : List (List Value) := []
  group : Option (List (List (List Value))) := none
  width : Nat := 0
  once : Option Database := none
  pending : List (List Value) := []
  windows : List (Nat × Value) := []

def tooComplex : Failure := .logic "Expression tree is too large (maximum depth 1000)"

def rowValueMisused : Failure := .logic "row value misused"

def Query.firstExpr? : Query → Option Expr
  | .select _ (.expr e _ _ :: _) _ _ _ _ _ => some e
  | .select .. => none
  | .values ((e :: _) :: _) => some e
  | .values _ => none
  | .compound _ a _ | .recursive a _ _ => a.firstExpr?
  | .ordered q .. | .defining _ q => q.firstExpr?

def Expr.shallowAffinity : Expr → Affinity
  | .bound _ _ a => a
  | .cast _ t => castAffinity t
  | _ => .none

def Expr.ownAffinity : Expr → Affinity
  | .collate e _ => e.ownAffinity
  | .subquery q => ((q.firstExpr?).map Expr.shallowAffinity).getD .none
  | .vector (x :: _) => x.shallowAffinity
  | e => e.shallowAffinity

def collationOf (a b : Expr) : Collation := ((a.collation?) <|> (b.collation?)).getD .binary

mutual

/-- Whether an expression names a column of a source at least `depth`
places out from the innermost, that is a column of a query around the one
it is checked for. -/
def exprReaches : Nat → Nat → Expr → Bool
  | 0, _, _ => true
  | n + 1, depth, e =>
    match e with
    | .bound s _ _ => s ≥ depth
    | .unary _ a | .isNull a _ | .cast a _ | .collate a _ | .field a _ | .truth a _ _ | .inTable a _ _ =>
      exprReaches n depth a
    | .binary _ a b => exprReaches n depth a || exprReaches n depth b
    | .inList a items _ => exprReaches n depth a || items.any (exprReaches n depth)
    | .inQuery a q _ => exprReaches n depth a || queryReaches n depth q
    | .between a lo hi _ => exprReaches n depth a || exprReaches n depth lo || exprReaches n depth hi
    | .pattern _ a p esc _ =>
      exprReaches n depth a || exprReaches n depth p || (esc.map (exprReaches n depth)).getD false
    | .call _ args _ _ | .vector args => args.any (exprReaches n depth)
    | .aggregate _ args _ _ filter => (args ++ filter.toList).any (exprReaches n depth)
    | .applied _ _ args _ _ filter overClause => (args ++ clauseTerms filter overClause).any (exprReaches n depth)
    | .case base arms other =>
      (base.map (exprReaches n depth)).getD false ||
        arms.any (fun (c, v) => exprReaches n depth c || exprReaches n depth v) ||
        (other.map (exprReaches n depth)).getD false
    | .exists q | .subquery q => queryReaches n depth q
    | _ => false

def queryReaches : Nat → Nat → Query → Bool
  | 0, _, _ => true
  | n + 1, depth, q =>
    match q with
    | .select _ cols src filter groups having _ =>
      let inner := depth + (src.map Source.width).getD 0
      cols.any (fun c => match c with
        | .expr e _ _ => exprReaches n inner e
        | _ => false) ||
        (src.map (sourceReaches n depth inner)).getD false || (filter.map (exprReaches n inner)).getD false ||
        groups.any (exprReaches n inner) || (having.map (exprReaches n inner)).getD false
    | .values rows => rows.any (·.any (exprReaches n depth))
    | .compound _ a b | .recursive a b _ => queryReaches n depth a || queryReaches n depth b
    | .defining defs body => defs.any (fun (_, _, q) => queryReaches n depth q) || queryReaches n depth body
    | .ordered q terms _ _ =>
      let inner := match q with
        | .select _ _ src _ _ _ _ => depth + (src.map Source.width).getD 0
        | _ => depth + 1
      queryReaches n depth q || terms.any (fun (t, _) => exprReaches n inner t)

/-- Whether a source names a column of a query around the one checked:
a query in it is checked at the depth outside, a join condition at the
depth inside. -/
def sourceReaches : Nat → Nat → Nat → Source → Bool
  | 0, _, _, _ => true
  | n + 1, outer, inner, s =>
    match s with
    | .table .. | .pending _ => false
    | .query q _ => queryReaches n outer q
    | .function _ args _ => args.any (exprReaches n inner)
    | .join a b _ _ on _ =>
      sourceReaches n outer inner a || sourceReaches n outer inner b || (on.map (exprReaches n inner)).getD false

end

def Scene.forSubquery (sc : Scene) (fuel : Nat) (q : Query) : Scene :=
  match sc.once with
  | some db => if queryReaches fuel 0 q then sc else { sc with db := db }
  | none => sc

def momentValue (m : Moment) (clockMs : Int) : Value :=
  match m with
  | .time => timeFunction clockMs []
  | .date => dateFunction clockMs []
  | .timestamp => datetimeFunction clockMs []

def sameRow (a b : List Value) : Bool :=
  a.length = b.length && (a.zip b).all fun (x, y) => x.compare .binary y = .eq

def distinctRows (rows : List (List Value)) : List (List Value) :=
  rows.foldl (fun acc r => if acc.any (sameRow r) then acc else acc ++ [r]) []

def recursionRounds : Nat := 100000

def recurseRows (step : List Value → Except Failure (List (List Value))) (distinct : Bool) (need : Option Nat) :
    Nat → List (List Value) → List (List Value) → List (List Value) → Except Failure (List (List Value))
  | 0, _, _, out => .ok out
  | _ + 1, [], _, out => .ok out
  | k + 1, r :: waiting, seen, out => do
    let out := out ++ [r]
    if (need.map fun k => decide (out.length ≥ k)).getD false then return out
    let made ← step r
    let fresh := if distinct then distinctRows (made.filter fun m => !seen.any (sameRow m)) else made
    recurseRows step distinct need k (waiting ++ fresh) (seen ++ fresh) out

def window (offset : Nat) (limit : Option Nat) (rows : List α) : List α :=
  let rows := rows.drop offset
  match limit with
  | some n => rows.take n
  | none => rows

def mustBeInt (v : Value) : Except Failure Int :=
  match v with
  | .int i => .ok i
  | .text s =>
    match numericText true s with
    | .int i => .ok i
    | _ => .error .mismatch
  | .real r =>
    match wholeReal? r with
    | some i => .ok i
    | none => .error .mismatch
  | _ => .error .mismatch

def groupByKey (rows : List (List Value × List (List Value))) : List (List (List (List Value))) :=
  let sorted := rows.mergeSort fun a b => compareRows a.1 b.1 != .gt
  let step := fun (acc : List (List Value × List (List (List Value)))) (r : List Value × List (List Value)) =>
    match acc with
    | (k, g) :: rest => if compareRows k r.1 = .eq then (k, g ++ [r.2]) :: rest else (r.1, [r.2]) :: acc
    | [] => [(r.1, [r.2])]
  ((sorted.foldl step []).reverse).map (·.2)

/-! ## Scalar functions -/

def quoteValue (v : Value) : Value :=
  match v with
  | .null => .str "NULL"
  | .int i => .str (toString i)
  | .real r =>
    let t := realText r
    if ((readReal t.toList).1.compare r) == .eq then .str t
    else .str (formatFloat (.exponent false) { altform2 := true, precision := some 20 } r)
  | .text s => .text (39 :: (untilNul s).flatMap (fun b => if b = 39 then [b, b] else [b]) ++ [39])
  | .blob b => .str ("X" ++ String.ofList [Char.ofNat 39] ++ hexUpper b ++ String.ofList [Char.ofNat 39])

def roundValue (x : Value) (n : Option Value) : Value :=
  match n with
  | some .null => .null
  | _ =>
    match x with
    | .null => .null
    | _ =>
      let places := match n with
        | some v => let k := int32Of v; if k < 0 then 0 else k.toNat
        | none => 0
      .real (roundReal x.toReal places)

def applyScalar (sc : Scene) (name : String) (args : List Value) : Except Failure Value :=
  let key := String.ofList (name.toList.map foldAscii)
  let a0 := args.headD .null
  let a1 := args.getD 1 .null
  let a2 := args.getD 2 .null
  match key with
  | "abs" => absOf a0
  | "length" => .ok (lengthOf a0)
  | "upper" => .ok (match a0.text? with
      | some s => .text (s.map upperByte)
      | none => .null)
  | "lower" => .ok (match a0.text? with
      | some s => .text (s.map lowerByte)
      | none => .null)
  | "substr" | "substring" => .ok (substrOf a0 a1 (args[2]?))
  | "replace" => .ok (replaceOf a0 a1 a2)
  | "trim" => .ok (trimOf true true a0 (args[1]?))
  | "ltrim" => .ok (trimOf true false a0 (args[1]?))
  | "rtrim" => .ok (trimOf false true a0 (args[1]?))
  | "instr" => .ok (instrOf a0 a1)
  | "hex" => .ok (hexOf a0)
  | "quote" => .ok (quoteValue a0)
  | "char" => .ok (charOf args)
  | "unicode" => .ok (unicodeOf a0)
  | "unhex" => .ok (unhexOf a0 (args[1]?))
  | "typeof" => .ok (typeofOf a0)
  | "nullif" => .ok (nullifOf a0 a1)
  | "max" => .ok (extremeOf true args)
  | "min" => .ok (extremeOf false args)
  | "zeroblob" => zeroblobOf a0
  | "sign" => .ok (signOf a0)
  | "round" => .ok (roundValue a0 (args[1]?))
  | "changes" => .ok (.int sc.counters.changes)
  | "total_changes" => .ok (.int sc.counters.totalChanges)
  | "last_insert_rowid" => .ok (.int sc.counters.lastRowid)
  | "random" => .ok (.int 0)
  | "randomblob" =>
    let n := a0.toInt
    .ok (.blob (List.replicate (if n < 1 then 1 else n.toNat) 0))
  | "sqlite_version" => .ok (.str versionText)
  | "sqlite_source_id" => .ok (.str sourceId)
  | "sqlite_compileoption_get" => .ok (((compileOptions[(int32Of a0).toNat]?).filter (fun _ => int32Of a0 ≥ 0)).map Value.str |>.getD .null)
  | "sqlite_compileoption_used" => .ok (match a0.text? with
      | some n => .int (if compileOptionUsed n then 1 else 0)
      | none => .null)
  | "load_extension" => .error (.logic "not authorized")
  | "soundex" => .ok (soundexOf a0)
  | "printf" | "format" =>
    match a0 with
    | .null => .ok .null
    | f => .ok (.text (printfText f.textBytes (args.drop 1)))
  | "like" => likeValue a0 a1 (args[2]?)
  | "glob" => globValue a0 a1
  | "date" => .ok (dateFunction sc.clockMs args)
  | "time" => .ok (timeFunction sc.clockMs args)
  | "datetime" => .ok (datetimeFunction sc.clockMs args)
  | "julianday" => .ok (juliandayFunction sc.clockMs args)
  | "unixepoch" => .ok (unixepochFunction sc.clockMs args)
  | "strftime" => .ok (strftimeFunction sc.clockMs args)
  | "current_date" => .ok (dateFunction sc.clockMs [])
  | "current_time" => .ok (timeFunction sc.clockMs [])
  | "current_timestamp" => .ok (datetimeFunction sc.clockMs [])
  | _ => .ok ((mathFunction? key args).getD .null)

def schemaRows (db : Database) (p : Place) : List (List Value) :=
  let tables := (db.tables.filter (·.place == p)).map fun t => (t.seq, "table", t.name, t.name, t.sql)
  let indexes := (db.indexes.filter (·.place == p)).map fun i => (i.seq, "index", i.name, i.table, i.sql)
  let views := (db.views.filter (·.place == p)).map fun v => (v.seq, "view", v.name, v.name, some v.sql)
  let triggers := (db.triggers.filter (·.place == p)).map fun tr => (tr.seq, "trigger", tr.name, tr.table, some tr.sql)
  let entries := (tables ++ indexes ++ views ++ triggers).mergeSort fun a b => a.1 ≤ b.1
  entries.map fun (seq, kind, n, tbl, sql) =>
    let page : Int := if kind = "view" || kind = "trigger" then 0 else seq + 1
    [.str kind, .str n, .str tbl, .int page, (sql.map Value.str).getD .null, .int seq]

/-! ## The evaluator -/

mutual

def evalExpr : Nat → Scene → Expr → Except Failure Value
  | 0, _, _ => .error tooComplex
  | n + 1, sc, e =>
    match e with
    | .lit v => .ok v
    | .integer t => .error (.logic ("hex literal too big: " ++ t))
    | .name parts _ _ => .error (.noColumn (partsText parts))
    | .bound s c _ => .ok (((sc.env[s]?).bind (·[c]?)).getD .null)
    | .var _ => .ok .null
    | .now m => .ok (momentValue m sc.clockMs)
    | .unary op a => do
      let v ← evalExpr n sc a
      pure (unaryValue op v)
    | .binary op a b => evalBinary n sc op a b
    | .isNull a neg => do
      let v ← evalExpr n sc a
      pure (Value.ofBool ((v == .null) != neg))
    | .inList a items neg => do
      let v ← evalExpr n sc a
      let aff := a.ownAffinity
      let coll := (a.collation?).getD .binary
      let mut sawNull := false
      for x in items do
        let w ← evalExpr n sc x
        match compareValues aff coll v w with
        | some .eq => return Value.ofBool !neg
        | some _ => pure ()
        | none => sawNull := true
      if items.isEmpty then return Value.ofBool neg
      if sawNull || v == .null then return .null
      return Value.ofBool neg
    | .inQuery a q neg => do
      let rows ← evalQuery n (sc.forSubquery n q) q none
      let v ← evalExpr n sc a
      let first := q.firstExpr?
      let aff := compareAffinity ((first.map Expr.ownAffinity).getD .none) a.ownAffinity
      let coll := ((a.collation?) <|> (first.bind Expr.collation?)).getD .binary
      if rows.isEmpty then return Value.ofBool neg
      if v == .null then return .null
      let ws := rows.map fun r => r.headD .null
      if ws.any fun w => compareValues aff coll v w = some .eq then return Value.ofBool !neg
      if ws.any (· == .null) then return .null
      return Value.ofBool neg
    | .inTable _ _ _ => .error (.logic "unresolved table in IN")
    | .between a lo hi neg => do
      let v ← evalExpr n sc a
      let l ← evalExpr n sc lo
      let h ← evalExpr n sc hi
      let ge := compareOp .ge (compareAffinity a.ownAffinity lo.ownAffinity) (collationOf a lo) v l
      let le := compareOp .le (compareAffinity a.ownAffinity hi.ownAffinity) (collationOf a hi) v h
      let r := andValues ge le
      pure (if neg then notValue r else r)
    | .pattern op a pat esc neg => do
      let p ← evalExpr n sc pat
      let v ← evalExpr n sc a
      let escV ← match esc with
        | some x => do
          let w ← evalExpr n sc x
          pure (some w)
        | none => pure none
      let r ← match op with
        | .glob => globValue p v
        | _ => likeValue p v escV
      pure (if neg then notValue r else r)
    | .call f args _ _ => do
      let key := String.ofList (f.toList.map foldAscii)
      if key = "coalesce" || key = "ifnull" then
        for x in args do
          let w ← evalExpr n sc x
          if w != .null then return w
        return .null
      else if key = "iif" then
        match args with
        | [c, t, o] => do
          if ← evalCond n sc c then evalExpr n sc t else evalExpr n sc o
        | _ => pure .null
      else if key = "likely" || key = "unlikely" || key = "likelihood" then
        match args with
        | x :: _ => evalExpr n sc x
        | [] => pure .null
      else if isJsonFunction f then do
        let typed ← args.mapM (evalTyped n sc)
        let (v, _) ← jsonFunction f typed
        pure v
      else
        let vs ← args.mapM (evalExpr n sc)
        applyScalar sc f vs
    | .applied k _ _ _ _ _ _ => .ok ((sc.windows.lookup k).getD .null)
    | .aggregate f args distinct star filter => do
      let members := sc.group.getD [sc.env.take sc.width]
      let members ← match filter with
        | some c => members.filterM fun m => evalCond n { sc with env := m ++ sc.env.drop sc.width, group := none } c
        | none => pure members
      let key := String.ofList (f.toList.map foldAscii)
      if key = "json_group_array" || key = "json_group_object" then
        let rows ← members.mapM fun m =>
          args.mapM (evalTyped n { sc with env := m ++ sc.env.drop sc.width, group := none })
        let rows := if distinct then
            rows.foldl (fun (acc : List (List (Value × Bool))) r =>
              if acc.any (fun x => sameRow ((x.take 1).map (·.1)) ((r.take 1).map (·.1))) then acc else acc ++ [r]) []
          else rows
        let none_ : Value × Bool := (.null, false)
        if key = "json_group_array" then return (← jsonGroupArray (rows.map (·.headD none_)))
        else return (← jsonGroupObject (rows.map fun r => (r.headD none_, r.getD 1 none_)))
      let rows ← members.mapM fun m =>
        args.mapM (evalExpr n { sc with env := m ++ sc.env.drop sc.width, group := none })
      let rows := if distinct then
          (rows.foldl (fun (acc : List (List Value)) r =>
            if r.headD .null == .null || acc.any (fun x => sameRow (x.take 1) (r.take 1)) then acc
            else acc ++ [r]) [])
        else rows
      aggregateValue f star rows
    | .truth a wanted neg => do
      let v ← evalExpr n sc a
      let r := match v with
        | .null => false
        | w => w.truthy == wanted
      pure (Value.ofBool (r != neg))
    | .cast a t => do
      let v ← evalExpr n sc a
      pure (castValue t v)
    | .case base arms other => do
      match base with
      | some b =>
        let vb ← evalExpr n sc b
        for (w, r) in arms do
          let vw ← evalExpr n sc w
          if compareValues (compareAffinity b.ownAffinity w.ownAffinity) (collationOf b w) vb vw = some .eq then
            let x ← evalExpr n sc r
            return x
      | none =>
        for (w, r) in arms do
          if ← evalCond n sc w then
            let x ← evalExpr n sc r
            return x
      match other with
      | some o => evalExpr n sc o
      | none => pure .null
    | .collate a _ => evalExpr n sc a
    | .exists q => do
      let rows ← evalQuery n (sc.forSubquery n q) q (some 1)
      pure (Value.ofBool !rows.isEmpty)
    | .subquery q => do
      let rows ← evalQuery n (sc.forSubquery n q) q (some 1)
      pure ((rows.head?.bind List.head?).getD .null)
    | .vector _ => .error rowValueMisused
    | .field a i =>
      match a with
      | .vector items =>
        match items[i]? with
        | some x => evalExpr n sc x
        | none => .ok .null
      | .subquery q => do
        let rows ← evalQuery n (sc.forSubquery n q) q (some 1)
        pure ((rows.head?.bind (·[i]?)).getD .null)
      | other => evalExpr n sc other
    | .raise kind message => .error (.raised kind message)

def evalTyped : Nat → Scene → Expr → Except Failure (Value × Bool)
  | 0, _, _ => .error tooComplex
  | n + 1, sc, e =>
    match e with
    | .call f args _ _ =>
      if isJsonFunction f then do
        let typed ← args.mapM (evalTyped n sc)
        jsonFunction f typed
      else do
        let v ← evalExpr n sc e
        pure (v, false)
    | .binary (.extract asText) a b => do
      let va ← evalExpr n sc a
      let vb ← evalExpr n sc b
      jsonFunction (if asText then "->>" else "->") [(va, false), (vb, false)]
    | .aggregate f _ _ _ _ | .applied _ f _ _ _ _ _ => do
      let v ← evalExpr n sc e
      let key := String.ofList (f.toList.map foldAscii)
      pure (v, key = "json_group_array" || key = "json_group_object")
    | _ => do
      let v ← evalExpr n sc e
      pure (v, false)

def evalBinary : Nat → Scene → BinOp → Expr → Expr → Except Failure Value
  | 0, _, _, _, _ => .error tooComplex
  | n + 1, sc, op, a, b =>
    match a, b with
    | .vector xs, .vector ys =>
      if !op.compares || xs.length != ys.length then .error rowValueMisused else do
      let pairs := xs.zip ys
      let mut sawNull := false
      for (x, y) in pairs do
        let vx ← evalExpr n sc x
        let vy ← evalExpr n sc y
        let aff := compareAffinity x.ownAffinity y.ownAffinity
        match op with
        | .is | .isNot =>
          if !sameValues aff (collationOf x y) vx vy then return Value.ofBool (op = .isNot)
        | _ =>
          match compareValues aff (collationOf x y) vx vy with
          | none => sawNull := true
          | some .eq => pure ()
          | some o =>
            if op = .eq || op = .ne then return Value.ofBool (op = .ne)
            else if !sawNull then return Value.ofBool (comparisonHolds op o)
            else return .null
      match op with
      | .is => return Value.ofBool true
      | .isNot => return Value.ofBool false
      | _ => if sawNull then return .null else return Value.ofBool (comparisonHolds op .eq)
    | .vector _, _ | _, .vector _ => .error rowValueMisused
    | _, _ => do
      let va ← evalExpr n sc a
      let vb ← evalExpr n sc b
      match op with
      | .and => pure (andValues va vb)
      | .or => pure (orValues va vb)
      | .eq | .ne | .lt | .le | .gt | .ge | .is | .isNot =>
        pure (compareOp op (compareAffinity a.ownAffinity b.ownAffinity) (collationOf a b) va vb)
      | .add | .sub | .mul | .div | .rem => pure (arith op va vb)
      | .bitAnd | .bitOr | .shl | .shr => pure (bitOp op va vb)
      | .concat => pure (concatValues va vb)
      | .extract asText => do
        let (v, _) ← jsonFunction (if asText then "->>" else "->") [(va, false), (vb, false)]
        pure v

def evalCond : Nat → Scene → Expr → Except Failure Bool
  | 0, _, _ => .error tooComplex
  | n + 1, sc, e =>
    match e with
    | .binary .and a b => do
      if ← evalCond n sc a then evalCond n sc b else pure false
    | .binary .or a b => do
      if ← evalCond n sc a then pure true else evalCond n sc b
    | _ => do
      let v ← evalExpr n sc e
      pure v.truthy

def evalQuery : Nat → Scene → Query → Option Nat → Except Failure (List (List Value))
  | 0, _, _, _ => .error tooComplex
  | n + 1, sc, q, need =>
    let bare : Scene := { sc with group := none }
    match q with
    | .ordered inner terms limit offset => do
      let lim ← match limit with
        | some l => do
          let v ← evalExpr n { bare with env := [] } l
          let i ← mustBeInt v
          pure (if i < 0 then none else some i.toNat)
        | none => pure none
      let off ← match offset with
        | some o => do
          let v ← evalExpr n { bare with env := [] } o
          let i ← mustBeInt v
          pure (if i < 0 then 0 else i.toNat)
        | none => pure 0
      let cap : Option Nat := match lim, need with
        | some l, some k => some (min l k + off)
        | some l, none => some (l + off)
        | none, some k => some (k + off)
        | none, none => none
      match inner with
      | .select distinct cols src filter groups having _ => do
        let keyed ← evalSelect n sc distinct cols src filter groups having terms
          (if terms.isEmpty then cap else none)
        let sorted := if terms.isEmpty then keyed else sortByKeys terms keyed
        pure (window off lim (sorted.map (·.1)))
      | _ => do
        let rows ← evalQuery n sc inner (if terms.isEmpty then cap else none)
        let keyed ← rows.mapM fun r => do
          let ks ← terms.mapM fun (t, _) => evalExpr n { bare with env := r :: sc.env } t
          pure (r, ks)
        let sorted := if terms.isEmpty then keyed else sortByKeys terms keyed
        pure (window off lim (sorted.map (·.1)))
    | .select distinct cols src filter groups having _ => do
      let keyed ← evalSelect n sc distinct cols src filter groups having [] need
      pure (keyed.map (·.1))
    | .values rows =>
      let rows := match need with
        | some k => rows.take k
        | none => rows
      rows.mapM fun row => row.mapM (evalExpr n bare)
    | .defining _ body => evalQuery n sc body need
    | .recursive anchor step distinct => do
      let start ← evalQuery n sc anchor none
      let start := if distinct then distinctRows start else start
      recurseRows (fun r => evalQuery n { sc with pending := [r] } step none) distinct need recursionRounds start start
        []
    | .compound op a b => do
      match op with
      | .unionAll =>
        let ra ← evalQuery n sc a need
        match need with
        | some k => if ra.length ≥ k then pure ra else do
          let rb ← evalQuery n sc b (some (k - ra.length))
          pure (ra ++ rb)
        | none => do
          let rb ← evalQuery n sc b none
          pure (ra ++ rb)
      | _ => do
        let ra ← evalQuery n sc a none
        let rb ← evalQuery n sc b none
        let sortRows := fun (rs : List (List Value)) => (distinctRows rs).mergeSort fun x y => compareRows x y != .gt
        match op with
        | .union => pure (sortRows (ra ++ rb))
        | .intersect => pure ((sortRows ra).filter fun r => rb.any (sameRow r))
        | _ => pure ((sortRows ra).filter fun r => !rb.any (sameRow r))

/-- A simple select's rows with their sort keys; with window calls, the
rows passing `WHERE` (and `HAVING`) get their window values first, in the
windows' order. -/
def evalSelect : Nat → Scene → Bool → List ResultColumn → Option Source → Option Expr → List Expr →
    Option Expr → List (Expr × Bool) → Option Nat → Except Failure (List (List Value × List Value))
  | 0, _, _, _, _, _, _, _, _, _ => .error tooComplex
  | n + 1, sc, distinct, cols, src, filter, groups, having, terms, need => do
    let width := (src.map Source.width).getD 0
    let rows ← match src with
      | some (.table schema name asName) =>
        match sc.db.findTable schema name with
        | some t =>
          if isSchemaTable name || isTempSchemaTable name then sourceRows n sc [] 0 (.table schema name asName)
          else pure (((chooseWalk sc.db t filter terms).rows t).map fun r => [r.values ++ [.int r.rowid]])
        | none => sourceRows n sc [] 0 (.table schema name asName)
      | some s => sourceRows n sc [] 0 s
      | none => pure [[]]
    let exprs := cols.filterMap fun c => match c with
      | .expr e _ _ => some e
      | _ => none
    let isAgg := !groups.isEmpty || exprs.any Expr.hasAggregate || having.isSome
    let sceneOf := fun (r : List (List Value)) => ({ sc with env := r ++ sc.env, group := none, width := width } : Scene)
    let calls := windowCallsOf (exprs ++ terms.map (·.1))
    if !isAgg && calls.isEmpty then
      let mut out : List (List Value × List Value) := []
      for r in rows do
        if (need.map fun k => decide (out.length ≥ k)).getD false then break
        let sr := sceneOf r
        let ok ← match filter with
          | some w => evalCond n sr w
          | none => pure true
        if ok then
          let vals ← exprs.mapM (evalExpr n sr)
          if distinct && out.any (fun o => sameRow o.1 vals) then continue
          let keys ← terms.mapM fun (t, _) => evalExpr n sr t
          out := out ++ [(vals, keys)]
      pure out
    else if calls.isEmpty then
      let kept ← rows.filterM fun r => match filter with
        | some w => evalCond n (sceneOf r) w
        | none => pure true
      let grouped ← if groups.isEmpty then pure [kept] else do
        let keyed ← kept.mapM fun r => do
          let k ← groups.mapM (evalExpr n (sceneOf r))
          pure (k, r)
        pure (groupByKey keyed)
      let mut out : List (List Value × List Value) := []
      for g in grouped do
        let rep := g.getLastD (List.replicate width [])
        let sg : Scene := { sc with env := rep ++ sc.env, group := some g, width := width }
        let ok ← match having with
          | some h => evalCond n sg h
          | none => pure true
        if ok then
          let vals ← exprs.mapM (evalExpr n sg)
          if distinct && out.any (fun o => sameRow o.1 vals) then continue
          let keys ← terms.mapM fun (t, _) => evalExpr n sg t
          out := out ++ [(vals, keys)]
      pure out
    else
      let kept ← rows.filterM fun r => match filter with
        | some w => evalCond n (sceneOf r) w
        | none => pure true
      let scenes ← if !isAgg then pure (kept.map sceneOf) else do
        let grouped ← if groups.isEmpty then pure [kept] else do
          let keyed ← kept.mapM fun r => do
            let k ← groups.mapM (evalExpr n (sceneOf r))
            pure (k, r)
          pure (groupByKey keyed)
        grouped.filterMapM fun g => do
          let rep := g.getLastD (List.replicate width [])
          let sg : Scene := { sc with env := rep ++ sc.env, group := some g, width := width }
          let ok ← match having with
            | some h => evalCond n sg h
            | none => pure true
          pure (if ok then some sg else none)
      let ordered ← windowValues (evalTyped n) (evalCond n) calls scenes
      let mut out : List (List Value × List Value) := []
      for (i, found) in ordered do
        match scenes[i]? with
        | some s =>
          let s := { s with windows := found }
          let vals ← exprs.mapM (evalExpr n s)
          if distinct && out.any (fun o => sameRow o.1 vals) then continue
          let keys ← terms.mapM fun (t, _) => evalExpr n s t
          out := out ++ [(vals, keys)]
        | none => pure ()
      pure out

def sourceRows : Nat → Scene → List (List Value) → Nat → Source → Except Failure (List (List (List Value)))
  | 0, _, _, _, _ => .error tooComplex
  | n + 1, sc, left, after, s =>
    match s with
    | .table schema name _ =>
      match schemaTablePlace? sc.db schema name with
      | some p => pure ((schemaRows sc.db p).map fun r => [r])
      | none =>
        match sc.db.findTable schema name with
        | some t => pure (t.rows.map fun r => [r.values ++ [.int r.rowid]])
        | none => .error (.noTable name)
    | .query q _ => do
      let rows ← evalQuery n sc q none
      pure (rows.map fun r => [r])
    | .pending _ => pure (sc.pending.map fun r => [r])
    | .function name args _ => do
      let env := left ++ List.replicate (1 + after) [] ++ sc.env
      let vals ← args.mapM (evalExpr n { sc with env := env, group := none })
      let rows ← jsonTableValues name vals
      pure (rows.map fun r => [r])
    | .join a b kind _ on _ => do
      let ra ← sourceRows n sc left (after + b.width) a
      let rb ← sourceRows n sc (left ++ List.replicate a.width []) after b
      let fits (x y : List (List Value)) : Except Failure Bool :=
        match on with
        | some c =>
          let env := left ++ x ++ y ++ List.replicate after [] ++ sc.env
          evalCond n { sc with env := env, group := none } c
        | none => pure true
      let mut out : Array (List (List Value)) := #[]
      let mut used : List Nat := []
      for x in ra do
        let mut found := false
        let rb ← if b.lateral then sourceRows n sc (left ++ x) after b else pure rb
        for (y, k) in rb.zipIdx do
          if ← fits x y then
            out := out.push (x ++ y)
            found := true
            used := k :: used
        if !found && kind.keepsLeft then out := out.push (x ++ List.replicate b.width [])
      if kind.keepsRight then
        for (y, k) in rb.zipIdx do
          if !used.contains k then out := out.push (List.replicate a.width [] ++ y)
      pure out.toList

end

end Issuance.Sql
