import Issuance.Sql.Eval
/-! # Writing a row

Rules in order: `NOT NULL`, affinities (strict tables refuse), `CHECK`, the
rowid, the unique indexes. A conflict fails, skips, replaces or goes to
`ON CONFLICT … DO UPDATE`, the statement's mode overriding, `ABORT` by
default. -/
namespace Issuance.Sql

abbrev Stop := Failure × Conflict

inductive ConflictTarget
  | any
  | rowid
  | index (name : String)
  deriving DecidableEq, Repr

structure UpsertPlan where
  target : ConflictTarget
  update : Option (List (Option Nat × Expr) × Option Expr)

def Table.names (t : Table) (asName : Option String) : SourceNames :=
  ⟨asName.getD t.name, some t.place.name, t.columns.map fun c => (c.name, c.affinity), !t.withoutRowid, false, none, none⟩

def Row.sourceRow (r : Row) : List Value := r.values ++ [.int r.rowid]

def Table.without (t : Table) (rowid : Int) : Table := { t with rows := t.rows.filter (·.rowid != rowid) }

def Table.adding (t : Table) (r : Row) : Table := { t with rows := insertRow r t.rows }

def Expr.ownColumns : Nat → Expr → List Nat
  | 0, _ => []
  | n + 1, e =>
    match e with
    | .bound 0 c _ => [c]
    | .unary _ a | .isNull a _ | .cast a _ | .collate a _ | .field a _ | .truth a _ _ | .inQuery a _ _
    | .inTable a _ _ => Expr.ownColumns n a
    | .binary _ a b => Expr.ownColumns n a ++ Expr.ownColumns n b
    | .inList a items _ => Expr.ownColumns n a ++ items.flatMap (Expr.ownColumns n)
    | .between a lo hi _ => Expr.ownColumns n a ++ Expr.ownColumns n lo ++ Expr.ownColumns n hi
    | .pattern _ a p esc _ => Expr.ownColumns n a ++ Expr.ownColumns n p ++ (esc.map (Expr.ownColumns n)).getD []
    | .call _ args _ _ | .vector args => args.flatMap (Expr.ownColumns n)
    | .aggregate _ args _ _ filter => (args ++ filter.toList).flatMap (Expr.ownColumns n)
    | .applied _ _ args _ _ filter overClause => (args ++ clauseTerms filter overClause).flatMap (Expr.ownColumns n)
    | .case base arms other =>
      (base.map (Expr.ownColumns n)).getD [] ++ arms.flatMap (fun (c, v) => Expr.ownColumns n c ++ Expr.ownColumns n v) ++
        (other.map (Expr.ownColumns n)).getD []
    | _ => []

/-! ## A table's rules, resolved -/

structure RowRules where
  defaults : List (Option Expr) := []
  generated : List (Option Expr) := []
  checks : List (String × Expr × List Nat) := []
  filters : List (String × Expr) := []

def resolveOn (n : Nat) (db : Database) (t : Table) (e : Expr) : Except Failure Expr :=
  match resolveExpr n { db := db, allowAgg := false } [{ sources := [t.names none] }] none e with
  | (e', none) => .ok e'
  | (_, some f) => .error f

def resolveConstant (n : Nat) (db : Database) (e : Expr) : Except Failure Expr :=
  match resolveExpr n { db := db, allowAgg := false } [] none e with
  | (e', none) => .ok e'
  | (_, some f) => .error f

def RowRules.of (n : Nat) (db : Database) (t : Table) : Except Failure RowRules := do
  let defaults ← t.columns.mapM fun c => match c.default with
    | some d => do
      let d' ← resolveConstant n db d
      pure (some d')
    | none => pure none
  let generated ← t.columns.mapM fun c => match c.generated with
    | some (g, _) => do
      let g' ← resolveOn n db t g
      pure (some g')
    | none => pure none
  let checks ← t.checks.mapM fun (name, e) => do
    let e' ← resolveOn n db t e
    pure (name, e', Expr.ownColumns n e')
  let filters ← (db.indexesOf t).filterMapM fun i => match i.filter with
    | some f => do
      let f' ← resolveOn n db t f
      pure (some (i.name, f'))
    | none => pure none
  pure ⟨defaults, generated, checks, filters⟩

/-! ## Values a column can hold -/

def standardTypes : List String := ["ANY", "BLOB", "INT", "INTEGER", "REAL", "TEXT"]

def standardType? (ty : String) : Option String := standardTypes.find? (sameName ty)

def Value.storageName : Value → String
  | .null => "NULL"
  | .int _ => "INT"
  | .real _ => "REAL"
  | .text _ => "TEXT"
  | .blob _ => "BLOB"

def strictHolds (ty : String) (v : Value) : Bool :=
  match v with
  | .null => true
  | .int _ => ty = "INT" || ty = "INTEGER" || ty = "ANY"
  | .real _ => ty = "REAL" || ty = "ANY"
  | .text _ => ty = "TEXT" || ty = "ANY"
  | .blob _ => ty = "BLOB" || ty = "ANY"

def storedValues (t : Table) (values : List Value) : Except Failure (List Value) :=
  (t.columns.zip values).mapM fun (c, v) =>
    let w := c.affinity.store v
    if !t.strict then .ok w else
    let ty := (standardType? c.type).getD "ANY"
    if strictHolds ty w then .ok w
    else .error (.constraint ("cannot store " ++ w.storageName ++ " value in " ++ ty ++ " column " ++ t.name ++ "." ++
      c.name) 3091)

/-! ## The rules -/

def notNullFailure (t : Table) (c : Column) : Failure :=
  .constraint ("NOT NULL constraint failed: " ++ t.name ++ "." ++ c.name) 1299

def rowidFailure (t : Table) : Failure :=
  match t.rowidColumn with
  | some k => .unique (t.name ++ "." ++ (t.columns.getD k default).name) 1555
  | none => .unique (t.name ++ ".rowid") 2579

def uniqueFailure (t : Table) (i : Index) : Failure :=
  let names := i.columns.map fun k => t.name ++ "." ++ (t.columns.getD k default).name
  .unique (", ".intercalate names) (if i.primary then 1555 else 2067)

def indexKey (i : Index) (values : List Value) : Option (List Value) :=
  let key := i.columns.map fun k => values.getD k .null
  if key.any (· == .null) then none else some key

def inIndex (n : Nat) (sc : Scene) (rules : RowRules) (i : Index) (row : List Value) : Except Failure Bool :=
  match rules.filters.find? (·.1 == i.name) with
  | some (_, f) => evalCond n { sc with env := [row] } f
  | none => pure true

def keyConflicts (t : Table) (i : Index) (key : List Value) (self : Option Int) : List Row :=
  t.rows.filter fun r => some r.rowid != self &&
    (match indexKey i r.values with
      | some k => sameRow k key
      | none => false)

def keepNotNull (n : Nat) (sc : Scene) (t : Table) (rules : RowRules) (override : Option Conflict)
    (changed : Option (List Nat)) (values : List Value) : Except Stop (Option (List Value)) := do
  let guarded := t.columns.zipIdx.filter fun (c, k) => c.notNull.isSome && t.rowidColumn != some k &&
    c.generated.isNone && (changed.map (·.contains k)).getD true
  let step := fun (acc : Option (List Value) × List Nat) (ck : Column × Nat) => do
    let (vals?, replaced) := acc
    let (c, k) := ck
    match vals? with
    | none => pure (none, replaced)
    | some vals =>
      if vals.getD k .null != .null then pure (some vals, replaced) else
      let mode := override.getD ((c.notNull.getD none).getD .abort)
      match mode, rules.defaults.getD k none with
      | .replace, some d =>
        match evalExpr n sc d with
        | .ok v => pure (some (vals.set k v), replaced ++ [k])
        | .error f => throw (f, .abort)
      | .replace, none => throw (notNullFailure t c, .abort)
      | .ignore, _ => pure (none, replaced)
      | m, _ => throw (notNullFailure t c, m)
  let (vals?, replaced) ← guarded.foldlM step (some values, [])
  match vals? with
  | none => pure none
  | some vals =>
    match replaced.find? fun k => vals.getD k .null == .null with
    | some k => throw (notNullFailure t (t.columns.getD k default), .abort)
    | none =>
      let generated := t.columns.zipIdx.filter fun (c, k) => c.notNull.isSome && c.generated.isSome &&
        vals.getD k .null == .null
      match generated.head? with
      | some (c, _) =>
        match override.getD ((c.notNull.getD none).getD .abort) with
        | .ignore => pure none
        | .replace => throw (notNullFailure t c, .abort)
        | m => throw (notNullFailure t c, m)
      | none => pure (some vals)

def keepChecks (n : Nat) (sc : Scene) (t : Table) (rules : RowRules) (override : Option Conflict)
    (changed : Option (List Nat)) (rowidChanged : Bool) (values : List Value) (rowid : Int) : Except Stop Bool :=
  let rowidAt := t.columns.length
  let concerned := rules.checks.filter fun (_, _, reads) =>
    match changed with
    | none => true
    | some cs => reads.any fun k => cs.contains k || (rowidChanged && (k = rowidAt || t.rowidColumn == some k))
  concerned.foldlM (fun ok (name, e, _) => do
    if !ok then return false
    match evalExpr n { sc with env := [values ++ [.int rowid]] } e with
    | .error f => throw (f, .abort)
    | .ok v =>
      if v == .null || v.truthy then pure true else
      match override.getD .abort with
      | .ignore => pure false
      | .replace => throw (.constraint ("CHECK constraint failed: " ++ name) 275, .abort)
      | m => throw (.constraint ("CHECK constraint failed: " ++ name) 275, m)) true

inductive Written
  | stored (t : Table) (row : Row)
  | skipped
  | upsert (u : UpsertPlan) (existing : Row) (proposed : List Value)

inductive KeyAction
  | fail (mode : Conflict)
  | skip
  | replace
  | update (u : UpsertPlan)

/-- The action for a conflict on a key: the first `ON CONFLICT` clause that
names it or names nothing, else the statement's mode, else the key's own. -/
def keyAction (ups : List UpsertPlan) (target : ConflictTarget) (override own : Option Conflict) : KeyAction :=
  match ups.find? fun u => u.target == .any || u.target == target with
  | some u => if u.update.isSome then .update u else .skip
  | none =>
    match override.getD (own.getD .abort) with
    | .ignore => .skip
    | .replace => .replace
    | m => .fail m

def checkOrder (indexes : List Index) (ups : List UpsertPlan) : List Index :=
  let named := (ups.filterMap fun u => match u.target with
    | .index name => some name
    | _ => none).eraseDups
  let first := named.filterMap fun name => indexes.find? (·.name == name)
  first ++ indexes.filter fun i => !named.contains i.name

def keepIndexes (n : Nat) (sc : Scene) (rules : RowRules) (override : Option Conflict) (ups : List UpsertPlan)
    (self : Option Int) (values : List Value) (rowid : Int) : List Index → Table → Except Stop Written
  | [], t => pure (.stored t ⟨rowid, values⟩)
  | i :: rest, t =>
    match indexKey i values with
    | none => keepIndexes n sc rules override ups self values rowid rest t
    | some key => do
      let holds ← (inIndex n sc rules i (values ++ [.int rowid])).mapError (·, .abort)
      if !holds then keepIndexes n sc rules override ups self values rowid rest t else
      let others ← ((keyConflicts t i key self).filterM fun r => inIndex n sc rules i r.sourceRow).mapError
        (·, .abort)
      match others with
      | [] => keepIndexes n sc rules override ups self values rowid rest t
      | other :: _ =>
        match keyAction ups (.index i.name) override i.onConflict with
        | .skip => pure .skipped
        | .update u => pure (.upsert u other values)
        | .replace =>
          keepIndexes n sc rules override ups self values rowid rest (others.foldl (fun t x => t.without x.rowid) t)
        | .fail m => throw (uniqueFailure t i, m)

def keepKeys (n : Nat) (sc : Scene) (rules : RowRules) (indexes : List Index) (override : Option Conflict)
    (ups : List UpsertPlan) (self : Option Int) (rowidChanged : Bool) (values : List Value) (rowid : Int)
    (t : Table) : Except Stop Written := do
  let t ← if rowidChanged && some rowid != self then
      match t.rows.find? (·.rowid == rowid) with
      | some other =>
        match keyAction ups .rowid override t.keyConflict with
        | .skip => return .skipped
        | .update u => return .upsert u other values
        | .replace => pure (t.without rowid)
        | .fail m => throw (rowidFailure t, m)
      | none => pure t
    else pure t
  keepIndexes n sc rules override ups self values rowid (checkOrder indexes ups) t

def withGenerated (n : Nat) (sc : Scene) (rules : RowRules) (values : List Value) (rowid : Int) :
    Except Failure (List Value) :=
  (rules.generated.zipIdx).foldlM (fun vals (g, k) =>
    match g with
    | some e => do
      let v ← evalExpr n { sc with env := [vals ++ [.int rowid]] } e
      pure (vals.set k v)
    | none => pure vals) values

/-- Write a row under the table's rules: `self` is the rowid it replaces
(none if new), `changed` the assigned columns, `rowidChanged` whether the
rowid was given. -/
def writeRow (n : Nat) (sc : Scene) (db : Database) (t : Table) (rules : RowRules) (override : Option Conflict)
    (ups : List UpsertPlan) (self : Option Int) (changed : Option (List Nat)) (rowidChanged : Bool)
    (values : List Value) (rowid : Int) : Except Stop Written := do
  let values ← (withGenerated n sc rules values rowid).mapError (·, .abort)
  let some values ← keepNotNull n sc t rules override changed values | return .skipped
  let values ← (storedValues t values).mapError (·, .abort)
  let ok ← keepChecks n sc t rules override changed rowidChanged values rowid
  if !ok then return .skipped
  match ← keepKeys n sc rules (db.uniqueIndexes t) override ups self rowidChanged values rowid t with
  | .stored t row =>
    let t := match self with
      | some old => t.without old
      | none => t
    pure (.stored (t.adding row) row)
  | o => pure o

end Issuance.Sql
