import Issuance.Sql.Catalog
/-! # Running statements

The first failure stops a script; what ran stays. A change of rows is all or
nothing except under `OR FAIL` and `OR ROLLBACK`; unique conflicts go to
`OR IGNORE`, `OR REPLACE` or `ON CONFLICT`. An open transaction is rolled
back at the end. -/
namespace Issuance.Sql

/-- A transaction in progress: the database when it began, whether a
savepoint began it, and its savepoints, innermost first, with the database
at each. -/
structure Transaction where
  start : Database
  bySavepoint : Bool
  savepoints : List (String × Database) := []

structure Connection where
  db : Database
  clockMs : Int := 0
  counters : Counters := {}
  transaction : Option Transaction := none
  reported : Int := 0
  outer : List (List Value) := []
  active : List (String × Place) := []
  override : Option Conflict := none

inductive InsertSource
  | defaults
  | row (values : List Expr)
  | query (q : Query)

/-- A prepared insert: table, target column of each value (none: the
rowid), row source, conflict mode, `ON CONFLICT` clauses, `RETURNING` list
and the table's rules. -/
structure InsertPlan where
  table : String
  place : Place
  targets : List (Option Nat)
  source : InsertSource
  conflict : Option Conflict
  upserts : List UpsertPlan
  returning : Option (List Expr)
  rules : RowRules

structure UpdatePlan where
  table : String
  place : Place
  assigned : List String
  sets : List (Option Nat × Expr)
  source : Option Source
  filter : Option Expr
  conflict : Option Conflict
  returning : Option (List Expr)
  rules : RowRules

structure DeletePlan where
  table : String
  place : Place
  filter : Option Expr
  returning : Option (List Expr)

inductive Plan
  | query (q : Query)
  | insert (p : InsertPlan)
  | update (p : UpdatePlan)
  | delete (p : DeletePlan)
  | begin
  | commit
  | rollback (savepoint : Option String)
  | savepoint (name : String)
  | release (name : String)
  | define (result : Except Failure (Option Database))
  | fill (t : Table) (q : Query)
  | vacuum
  | attach (file name : Expr)
  | detach (name : Expr)
  | nothing

/-! ## Preparing -/

def attachTerm (n : Nat) (db : Database) : Expr → Except Failure Expr
  | .name [x] _ _ => .ok (.lit (.str x))
  | e => resolveConstant n db e

def changedTable (db : Database) (t : TableName) : Except Failure Table :=
  match schemaTablePlace? db t.schema t.name with
  | some .temp => .error (.logic "table sqlite_temp_master may not be modified")
  | some _ => .error (.logic "table sqlite_master may not be modified")
  | none =>
    match db.findTable t.schema t.name with
    | some tbl => .ok tbl
    | none =>
      match db.findView t.schema t.name with
      | some v => .error (.logic ("cannot modify " ++ v.name ++ " because it is a view"))
      | none => .error (.noTable t.text)

def resolveIn (n : Nat) (db : Database) (scope : Scope) (e : Expr) : Except Failure Expr :=
  match resolveExpr n { db := db, allowAgg := false } scope none e with
  | (e', none) => .ok e'
  | (_, some f) => .error f

/-- The column an assignment names: a column's place, `none` for the rowid
(and for the column that holds it). A generated column cannot be assigned. -/
def assignedColumn (t : Table) (c : String) : Except Failure (Option Nat) :=
  match t.columnIndex? c with
  | some i =>
    if (t.columns.getD i default).generated.isSome then .error (.logic ("cannot UPDATE generated column \"" ++ c ++ "\""))
    else .ok (if t.rowidColumn == some i then none else some i)
  | none => if isRowidName c && !t.withoutRowid then .ok none else .error (.noColumn c)

def resolveSets (n : Nat) (db : Database) (t : Table) (scope : Scope) (sets : List (String × Expr)) :
    Except Failure (List (Option Nat × Expr)) :=
  sets.mapM fun (c, e) => do
    let e' ← resolveIn n db scope e
    let col ← assignedColumn t c
    pure (col, e')

def resolveReturning (n : Nat) (db : Database) (t : Table) (asName : Option String) :
    Option (List ResultColumn) → Except Failure (Option (List Expr))
  | none => .ok none
  | some cols => do
    let names := t.names asName
    let scope : Scope := [{ sources := [names] }]
    let exprs ← cols.mapM fun c => match c with
      | .all | .allOf _ => pure (names.columns.zipIdx.map fun ((_, a), k) => Expr.bound 0 k a)
      | .expr e _ _ => do
        let e' ← resolveIn n db scope e
        pure [e']
    pure (some exprs.flatten)

def upsertTarget (n : Nat) (db : Database) (t : Table) (target : List Expr) : Except Failure ConflictTarget :=
  if target.isEmpty then .ok .any else do
  let scope : Scope := [{ sources := [t.names none] }]
  let resolved ← target.mapM (resolveIn n db scope)
  let cols := resolved.filterMap fun e => match e with
    | .bound 0 c _ => some c
    | .collate (.bound 0 c _) _ => some c
    | _ => none
  let isRowid := fun (c : Nat) => c = t.columns.length || t.rowidColumn == some c
  match cols with
  | [c] => if target.length = 1 && !t.withoutRowid && isRowid c then return .rowid
  | _ => pure ()
  let fits := fun (i : Index) => i.columns.length = target.length && cols.length = target.length &&
    i.columns.all cols.contains && i.filter.isNone
  match (db.uniqueIndexes t).find? fits with
  | some i => .ok (.index i.name)
  | none => .error (.logic "ON CONFLICT clause does not match any PRIMARY KEY or UNIQUE constraint")

def insertWidth (n : Nat) (db : Database) (outer : Scope) (q : Query) : Except Failure (Query × Nat) := do
  let r ← resolveQuery n db outer q
  pure (r.query, r.columns.length)

def prepare (n : Nat) (c : Connection) (outer : Scope) : Stmt → Except Failure Plan
  | .query q => do
    let r ← resolveQuery n c.db outer q
    pure (.query r.query)
  | .insert conflict tn asName cols rows ups ret => do
    let t ← changedTable c.db tn
    let shown := match asName with
      | some a => a
      | none => tn.text
    let targets ← match cols with
      | some cs => cs.mapM fun name =>
        match t.columnIndex? name with
        | some i =>
          if (t.columns.getD i default).generated.isSome then
            throw (.logic ("cannot INSERT into generated column \"" ++ name ++ "\""))
          else pure (if t.rowidColumn == some i then none else some i)
        | none => if isRowidName name && !t.withoutRowid then pure none else throw (.noColumnNamed shown name)
      | none => pure ((t.columns.zipIdx.filter fun (col, _) => col.generated.isNone).map fun (_, i) =>
          if t.rowidColumn == some i then none else some i)
    let (source, width) ← match rows with
      | none => pure (InsertSource.defaults, targets.length)
      | some (.values [row]) => do
        let vals ← row.mapM (resolveIn n c.db outer)
        pure (InsertSource.row vals, vals.length)
      | some q => do
        let (q', w) ← insertWidth n c.db outer q
        pure (InsertSource.query q', w)
    if cols.isNone && width ≠ targets.length then throw (.tableArity shown targets.length width)
    if cols.isSome && width ≠ targets.length then throw (.valueCount width targets.length)
    let upsertPlans ← ups.mapM fun u => do
      match u with
      | .nothing target => do
        let tg ← upsertTarget n c.db t target
        pure (⟨tg, none⟩ : UpsertPlan)
      | .update target sets filter => do
        let tg ← upsertTarget n c.db t target
        let excluded : SourceNames := { t.names none with name := "excluded", database := none, qualifiedOnly := true }
        let scope : Scope := { sources := [t.names asName, excluded] } :: outer
        let sets' ← resolveSets n c.db t scope sets
        let filter' ← match filter with
          | some w => do
            let w' ← resolveIn n c.db scope w
            pure (some w')
          | none => pure none
        pure (⟨tg, some (sets', filter')⟩ : UpsertPlan)
    let ret ← resolveReturning n c.db t asName ret
    let rules ← RowRules.of n c.db t
    pure (.insert ⟨t.name, t.place, targets, source, conflict, upsertPlans, ret, rules⟩)
  | .update conflict tn asName sets src filter ret => do
    let t ← changedTable c.db tn
    let (src', joined) ← match src with
      | some s => do
        let (s', ns) ← resolveSource n c.db outer s
        pure (some s', ns)
      | none => pure (none, [])
    let scope : Scope := { sources := t.names asName :: joined } :: outer
    let sets' ← resolveSets n c.db t scope sets
    let filter' ← match filter with
      | some w => do
        let w' ← resolveIn n c.db scope w
        pure (some w')
      | none => pure none
    let src' ← match src' with
      | some s =>
        match resolveJoins n { db := c.db, allowAgg := false } scope 1 none s with
        | (s', none) => pure (some s')
        | (_, some f) => throw f
      | none => pure none
    let ret ← resolveReturning n c.db t asName ret
    let rules ← RowRules.of n c.db t
    pure (.update ⟨t.name, t.place, sets.map (·.1), sets', src', filter', conflict, ret, rules⟩)
  | .delete tn asName filter ret => do
    let t ← changedTable c.db tn
    let scope : Scope := { sources := [t.names asName] } :: outer
    let filter' ← match filter with
      | some w => do
        let w' ← resolveIn n c.db scope w
        pure (some w')
      | none => pure none
    let ret ← resolveReturning n c.db t asName ret
    pure (.delete ⟨t.name, t.place, filter', ret⟩)
  | .begin => .ok .begin
  | .commit => .ok .commit
  | .rollback sp => .ok (.rollback sp)
  | .savepoint name => .ok (.savepoint name)
  | .release name => .ok (.release name)
  | .dropTable ifExists tn => do
    let db ← dropTableNamed c.db ifExists tn
    pure (.define (.ok db))
  | .dropOther kind ifExists tn => do
    if kind = "INDEX" then
      let db ← dropIndexNamed c.db ifExists tn
      pure (.define (.ok db))
    else if kind = "VIEW" then
      let db ← dropViewNamed c.db ifExists tn
      pure (.define (.ok db))
    else do
      let db ← dropTriggerNamed c.db ifExists tn
      pure (.define (.ok db))
  | .vacuum => .ok .vacuum
  | .attach file name => do
    let file ← attachTerm n c.db file
    let name ← attachTerm n c.db name
    pure (.attach file name)
  | .detach name => do
    let name ← attachTerm n c.db name
    pure (.detach name)
  | .createTable d => do
    let db ← defineTable n c.db d
    pure (.define (.ok db))
  | .createTableAs temp ifNotExists tn written q => do
    match ← tableFromQuery n c.db temp ifNotExists tn written q with
    | some (t, q') => pure (.fill t q')
    | none => pure (.define (.ok none))
  | .createIndex unique ifNotExists tn table terms filter text => do
    let sc : Scene := { db := c.db, counters := c.counters, clockMs := c.clockMs }
    match ← defineIndex n sc unique ifNotExists tn table terms filter text with
    | some built => pure (.define (built.map some))
    | none => pure (.define (.ok none))
  | .createView temp ifNotExists tn written columns q text => do
    let hasParameters := (tokenize text).any (·.kind == .variable)
    let db ← defineView c.db hasParameters temp ifNotExists tn written columns q text
    pure (.define (.ok db))
  | .alter tn change =>
    let sc : Scene := { db := c.db, counters := c.counters, clockMs := c.clockMs }
    match alterTable n sc tn change with
    | .ok db => .ok (.define (.ok (some db)))
    | .error (.constraint t 1811) => .ok (.define (.error (.constraint t 1811)))
    | .error f => .error f
  | .createTrigger temp ifNotExists tn written time event table condition body text fuel => do
    let db ← defineTrigger c.db temp ifNotExists tn written time event table condition body text fuel
    pure (.define (.ok db))
  | .explain _ => .ok .nothing
  | .quiet => .ok .nothing
  | .defining defs s => prepare n c ({ sources := [], named := defs.map fun (nm, cols, q) => .defined nm cols q } :: outer) s

def stmtFaults (n : Nat) : Stmt → List Failure
  | .query q => queryFaults n q
  | .insert _ _ _ _ rows upserts ret =>
    let upsertFaults : Upsert → List Failure
      | .nothing target => target.flatMap (exprFaults n)
      | .update target sets filter =>
        target.flatMap (exprFaults n) ++ sets.flatMap (fun (_, e) => exprFaults n e) ++
          (filter.map (exprFaults n)).getD []
    (rows.map (queryFaults n)).getD [] ++ upserts.flatMap upsertFaults ++
      (ret.map (·.flatMap (columnFaults n))).getD []
  | .update _ _ _ sets src filter ret =>
    sets.flatMap (fun (_, e) => exprFaults n e) ++ (src.map (sourceFaults n)).getD [] ++
      (filter.map (exprFaults n)).getD [] ++
      (ret.map (·.flatMap (columnFaults n))).getD []
  | .delete _ _ filter ret =>
    (filter.map (exprFaults n)).getD [] ++ (ret.map (·.flatMap (columnFaults n))).getD []
  | .explain s => stmtFaults n s
  | .defining defs s => defs.flatMap (fun (_, _, q) => queryFaults n q) ++ stmtFaults n s
  | _ => []

/-! ## Triggers, compiled -/

inductive RowEvent
  | insert
  | update (assigned : List String)
  | delete

def RowEvent.hasNew : RowEvent → Bool
  | .delete => false
  | _ => true

def RowEvent.hasOld : RowEvent → Bool
  | .insert => false
  | _ => true

def Trigger.runsOn (tr : Trigger) (time : TriggerTime) (ev : RowEvent) : Bool :=
  tr.time == time && match tr.event, ev with
    | .insert, .insert | .delete, .delete => true
    | .update cols, .update assigned => cols.isEmpty || cols.any fun c => assigned.any (sameName c)
    | _, _ => false

def triggerLevel (t : Table) (ev : RowEvent) : Level :=
  let row := fun (nm : String) =>
    ({ name := nm, database := none, columns := t.columns.map fun c => (c.name, c.affinity), rowid := true,
       qualifiedOnly := true } : SourceNames)
  { sources := (if ev.hasNew then [row "new"] else []) ++ (if ev.hasOld then [row "old"] else []),
    inTrigger := true }

def triggerRows (ev : RowEvent) (new old : List Value) : List (List Value) :=
  (if ev.hasNew then [new] else []) ++ (if ev.hasOld then [old] else [])

def Plan.overriddenBy (m : Option Conflict) : Plan → Plan
  | .insert p => .insert { p with conflict := m.orElse fun _ => p.conflict }
  | .update p => .update { p with conflict := m.orElse fun _ => p.conflict }
  | p => p

def prepareStep (n : Nat) (c : Connection) (lvl : Level) (s : Stmt) : Except Failure Plan := do
  let plan ← prepare n c [lvl] s
  match (stmtFaults n s).getLast? with
  | some f => throw f
  | none => pure (plan.overriddenBy c.override)

def triggerFaults (c : Connection) (t : Table) (ev : RowEvent) : Except Failure Unit :=
  (c.db.triggersOn t).forM fun tr =>
    if tr.runsOn .before ev || tr.runsOn .after ev then do
      let lvl := triggerLevel t ev
      match tr.condition with
      | some w =>
        let _ ← resolveIn tr.fuel c.db [lvl] w
        pure ()
      | none => pure ()
      tr.body.forM fun s => do
        let _ ← prepareStep tr.fuel c lvl s
        pure ()
    else pure ()

def prepareStatement (n : Nat) (c : Connection) (s : Stmt) : Except Failure Plan := do
  let plan ← match s with
    | .explain s => do
      let _ ← prepare n c [] s
      pure .nothing
    | s => prepare n c [] s
  match (stmtFaults n s).getLast? with
  | some f => throw f
  | none => pure ()
  let changed : Option (Table × RowEvent) := match plan with
    | .insert p => (c.db.tableIn? p.place p.table).map (·, .insert)
    | .update p => (c.db.tableIn? p.place p.table).map (·, .update p.assigned)
    | .delete p => (c.db.tableIn? p.place p.table).map (·, .delete)
    | _ => none
  match changed with
  | some (t, ev) => triggerFaults c t ev
  | none => pure ()
  pure plan

/-! ## Changing rows -/

structure Progress where
  db : Database
  changes : Nat := 0
  lastRowid : Int
  returned : Nat := 0
  sequence : Option Int := none
  nested : Nat := 0

def Connection.scene (c : Connection) (db : Database) (env : List (List Value)) : Scene :=
  { db := db, counters := c.counters, clockMs := c.clockMs, env := env ++ c.outer }

abbrev Firing :=
  Connection → Table → TriggerTime → RowEvent → List Value → List Value → Except Stop (Database × Nat × Bool)

def Table.pendingRow (t : Table) (values : List Value) (rowid : Int) : List Value :=
  (t.columns.zip values).map (fun (c, v) => c.affinity.store v) ++ [.int rowid]

def rowidValue (v : Value) : Except Failure Int := mustBeInt v

/-- The values assignments give a row: the values (the rowid column
following the rowid), the rowid, the columns assigned, and whether the rowid
was. -/
def assignValues (n : Nat) (sc : Scene) (t : Table) (sets : List (Option Nat × Expr)) (old : Row) :
    Except Failure (List Value × Int × List Nat × Bool) := do
  let vals ← sets.mapM fun (col, e) => do
    let v ← evalExpr n sc e
    pure (col, v)
  let values := old.values.zipIdx.map fun (v, k) =>
    match (vals.filter fun (col, _) => col == some k).getLast? with
    | some (_, w) => w
    | none => v
  let (rowid, rowidSet) ← match (vals.filter fun (col, _) => col.isNone).getLast? with
    | some (_, w) => do
      let r ← rowidValue w
      pure (r, true)
    | none => pure (old.rowid, false)
  let values := match t.rowidColumn with
    | some k => values.set k (.int rowid)
    | none => values
  pure (values, rowid, (sets.filterMap (·.1)).eraseDups, rowidSet)

def returnRow (n : Nat) (sc : Scene) (ret : Option (List Expr)) : Except Failure Nat :=
  match ret with
  | some es => do
    let _ ← es.mapM (evalExpr n sc)
    pure 1
  | none => pure 0

/-- The rowid a new row takes: one past the largest, and under
`AUTOINCREMENT` also past every rowid the table has had, which must leave
room for it. -/
def freshRowid (t : Table) (sequence : Option Int) : Except Failure Int :=
  let next := nextRowid t.rows
  match sequence with
  | some s =>
    if s ≥ maxInt || (t.rows.getLast?.map fun r => decide (r.rowid ≥ maxInt)).getD false then .error .full
    else .ok (max next (s + 1))
  | none => .ok next

def sequenceOf (db : Database) (t : Table) : Int :=
  match db.tableIn? t.place sequenceTable with
  | some seq =>
    match seq.rows.find? fun r => r.values.head? == some (.str t.name) with
    | some r => (r.values.getD 1 .null).toInt
    | none => 0
  | none => 0

def Database.recordSequence (db : Database) (t : Table) (value : Int) : Database :=
  match db.tableIn? t.place sequenceTable with
  | some seq =>
    let seq := match seq.rows.find? fun r => r.values.head? == some (.str t.name) with
      | some r => seq.without r.rowid |>.adding ⟨r.rowid, [.str t.name, .int value]⟩
      | none => seq.adding ⟨nextRowid seq.rows, [.str t.name, .int value]⟩
    db.putTable seq
  | none => db

def upsertRow (n : Nat) (c : Connection) (p : InsertPlan) (db : Database) (t : Table) (sets : List (Option Nat × Expr))
    (filter : Option Expr) (existing : Row) (proposed : List Value) (rowid : Int) : Except Stop (Option (Table × Row)) := do
  let sc := c.scene db [existing.sourceRow, proposed ++ [.int rowid]]
  let ok ← (match filter with
    | some w => evalCond n sc w
    | none => pure true).mapError (·, .abort)
  if !ok then return none
  let (vals, rid, changed, rowidSet) ← (assignValues n sc t sets existing).mapError (·, .abort)
  match ← writeRow n sc db t p.rules (some .abort) [] (some existing.rowid) (some changed) rowidSet vals rid with
  | .stored t' row => pure (some (t', row))
  | _ => pure none

def insertOne (fire : Firing) (n : Nat) (c : Connection) (p : InsertPlan) (pr : Progress) (supplied : List Value) :
    Except Stop Progress := do
  let some t := pr.db.tableIn? p.place p.table | throw (.noTable p.table, .abort)
  let sc := c.scene pr.db []
  let pairs := p.targets.zip supplied
  let valueFor := fun (k : Nat) => ((pairs.filter fun (col, _) => col == some k).getLast?).map (·.2)
  let values ← (t.columns.zipIdx.mapM fun ((col : Column), k) =>
      if t.rowidColumn == some k || col.generated.isSome then pure Value.null
      else match valueFor k with
        | some v => pure v
        | none => match p.rules.defaults.getD k none with
          | some d => evalExpr n sc d
          | none => pure .null).mapError (·, .abort)
  let given := ((pairs.filter fun (col, _) => col.isNone).getLast?).map (·.2)
  let explicit := given.bind fun v => if v == .null then none else some v
  let fixed ← match explicit with
    | some v => (rowidValue v).map some |>.mapError (·, .abort)
    | none => pure none
  let pending := match t.rowidColumn with
    | some k => values.set k (given.getD .null)
    | none => values
  let pendingRow ← (withGenerated n sc p.rules pending (fixed.getD (-1))).mapError (·, .abort)
  let (db, nested, ignored) ← fire { c with db := pr.db, override := p.conflict } t .before .insert
    (t.pendingRow pendingRow (fixed.getD (-1))) []
  let pr := { pr with db := db, nested := pr.nested + nested }
  if ignored then return pr
  let some t := pr.db.tableIn? p.place p.table | throw (.noTable p.table, .abort)
  let sc := c.scene pr.db []
  let rowid ← match fixed with
    | some r => pure r
    | none => (freshRowid t pr.sequence).mapError (·, .abort)
  let values := match t.rowidColumn with
    | some k => values.set k (.int rowid)
    | none => values
  let pr := { pr with sequence := pr.sequence.map (max rowid) }
  match ← writeRow n sc pr.db t p.rules p.conflict p.upserts none none explicit.isSome values rowid with
  | .skipped => pure pr
  | .stored t' row =>
    let db := pr.db.putTable t'
    match returnRow n (c.scene db [row.sourceRow]) p.returning with
    | .ok k =>
      let pr := { pr with db := db, changes := pr.changes + 1, lastRowid := rowid, returned := pr.returned + k }
      let (db, nested, _) ← fire { c with db := pr.db, override := p.conflict } t' .after .insert row.sourceRow []
      pure { pr with db := db, nested := pr.nested + nested }
    | .error f => throw (f, .abort)
  | .upsert u existing proposed =>
    match u.update with
    | none => pure pr
    | some (sets, filter) =>
      match ← upsertRow n c p pr.db t sets filter existing proposed rowid with
      | none => pure pr
      | some (t', row) =>
        let db := pr.db.putTable t'
        match returnRow n (c.scene db [row.sourceRow]) p.returning with
        | .ok k => pure { pr with db := db, changes := pr.changes + 1, returned := pr.returned + k }
        | .error f => throw (f, .abort)

def runInsert (fire : Firing) (n : Nat) (c : Connection) (p : InsertPlan) : Progress × Option Stop :=
  let sequence := match c.db.tableIn? p.place p.table with
    | some t => if t.autoincrement then some (sequenceOf c.db t) else none
    | none => none
  let start : Progress := { db := c.db, lastRowid := c.counters.lastRowid, sequence := sequence }
  let rows : Except Failure (List (List Value)) := match p.source with
    | .defaults => .ok [List.replicate p.targets.length .null]
    | .row es => do
      let vs ← es.mapM (evalExpr n (c.scene c.db []))
      pure [vs]
    | .query q => evalQuery n (c.scene c.db []) q none
  match rows with
  | .error f => (start, some (f, .abort))
  | .ok rows =>
    let (pr, stop) := rows.foldl (fun (acc : Progress × Option Stop) vals =>
      match acc with
      | (pr, none) =>
        match insertOne fire n c p pr vals with
        | .ok pr' => (pr', none)
        | .error s => (pr, some s)
      | stopped => stopped) (start, none)
    match stop, pr.sequence, pr.db.tableIn? p.place p.table with
    | none, some value, some t => ({ pr with db := pr.db.recordSequence t value }, none)
    | _, _, _ => (pr, stop)

def selectedRows (n : Nat) (c : Connection) (t : Table) (filter : Option Expr) : Except Failure (List Row) :=
  let rows := (chooseWalk c.db t filter []).rows t
  match filter with
  | none => .ok rows
  | some w => rows.filterM fun r => evalCond n (c.scene c.db [r.sourceRow]) w

def updateOne (fire : Firing) (n : Nat) (c : Connection) (p : UpdatePlan) (pr : Progress) (r : Row)
    (given : Option (List Value × Int × List Nat × Bool)) : Progress × Option Stop :=
  match pr.db.tableIn? p.place p.table with
  | none => (pr, none)
  | some t =>
    match t.rows.find? (·.rowid == r.rowid) with
    | none => (pr, none)
    | some old =>
      let sc := { c.scene pr.db [old.sourceRow] with once := some c.db }
      let assigned : Except Failure (List Value × Int × List Nat × Bool) := match given with
        | some a => .ok a
        | none => assignValues n sc t p.sets old
      match assigned with
      | .error f => (pr, some (f, .abort))
      | .ok (vals, rid, changed, rowidSet) =>
        let pending := match withGenerated n sc p.rules vals rid with
          | .ok v => v
          | .error _ => vals
        match fire { c with db := pr.db, override := p.conflict } t .before (.update p.assigned)
            (t.pendingRow pending rid) old.sourceRow with
        | .error s => (pr, some s)
        | .ok (db, nested, ignored) =>
          let pr := { pr with db := db, nested := pr.nested + nested }
          if ignored then (pr, none) else
          match pr.db.tableIn? p.place p.table with
          | none => (pr, none)
          | some t =>
            match t.rows.find? (·.rowid == old.rowid) with
            | none => (pr, none)
            | some now =>
              let vals := vals.zipIdx.map fun (v, k) =>
                if changed.contains k || t.rowidColumn == some k then v else now.values.getD k v
              let sc := { c.scene pr.db [now.sourceRow] with once := some c.db }
              match writeRow n sc pr.db t p.rules p.conflict [] (some old.rowid) (some changed) rowidSet vals rid with
              | .error s => (pr, some s)
              | .ok (.stored t' row) =>
                let db := pr.db.putTable t'
                match returnRow n (c.scene db [row.sourceRow]) p.returning with
                | .ok k =>
                  let pr := { pr with db := db, changes := pr.changes + 1, returned := pr.returned + k }
                  match fire { c with db := pr.db, override := p.conflict } t' .after (.update p.assigned)
                      row.sourceRow old.sourceRow with
                  | .ok (db, nested, _) => ({ pr with db := db, nested := pr.nested + nested }, none)
                  | .error s => (pr, some s)
                | .error f => (pr, some (f, .abort))
              | .ok _ => (pr, none)

def joinedUpdates (n : Nat) (c : Connection) (t : Table) (p : UpdatePlan) (s : Source) :
    Except Failure (List (Row × (List Value × Int × List Nat × Bool))) := do
  let once ← sourceRows n (c.scene c.db []) [[]] 0 s
  t.rows.foldlM (fun acc r => do
    let others ← if s.lateral then sourceRows n (c.scene c.db []) [r.sourceRow] 0 s else pure once
    let found ← others.foldlM (fun (last : Option (List Value × Int × List Nat × Bool)) o => do
      let sc := { c.scene c.db ([r.sourceRow] ++ o) with once := some c.db }
      let ok ← match p.filter with
        | some w => evalCond n sc w
        | none => pure true
      if ok then
        let a ← assignValues n sc t p.sets r
        pure (some a)
      else pure last) none
    pure (match found with
      | some a => acc ++ [(r, a)]
      | none => acc)) []

def runUpdate (fire : Firing) (n : Nat) (c : Connection) (p : UpdatePlan) : Progress × Option Stop :=
  let start : Progress := { db := c.db, lastRowid := c.counters.lastRowid }
  match c.db.tableIn? p.place p.table with
  | none => (start, some (.noTable p.table, .abort))
  | some t =>
    let chosen : Except Failure (List (Row × Option (List Value × Int × List Nat × Bool))) :=
      match p.source with
      | some s => (joinedUpdates n c t p s).map (·.map fun (r, a) => (r, some a))
      | none => (selectedRows n c t p.filter).map (·.map (·, none))
    match chosen with
    | .error f => (start, some (f, .abort))
    | .ok rows =>
      rows.foldl (fun (acc : Progress × Option Stop) (r, given) =>
        match acc with
        | (pr, none) => updateOne fire n c p pr r given
        | stopped => stopped) (start, none)

def deleteOne (fire : Firing) (n : Nat) (c : Connection) (p : DeletePlan) (pr : Progress) (r : Row) :
    Progress × Option Stop :=
  match pr.db.tableIn? p.place p.table with
  | none => (pr, none)
  | some t =>
    match t.rows.find? (·.rowid == r.rowid) with
    | none => (pr, none)
    | some cur =>
      match fire { c with db := pr.db, override := none } t .before .delete [] cur.sourceRow with
      | .error s => (pr, some s)
      | .ok (db, nested, ignored) =>
        let pr := { pr with db := db, nested := pr.nested + nested }
        if ignored then (pr, none) else
        match pr.db.tableIn? p.place p.table with
        | none => (pr, none)
        | some t =>
          match t.rows.find? (·.rowid == r.rowid) with
          | none => (pr, none)
          | some cur =>
            match returnRow n (c.scene pr.db [cur.sourceRow]) p.returning with
            | .error f => (pr, some (f, .abort))
            | .ok k =>
              let t' := t.without cur.rowid
              let pr := { pr with db := pr.db.putTable t', changes := pr.changes + 1, returned := pr.returned + k }
              match fire { c with db := pr.db, override := none } t' .after .delete [] cur.sourceRow with
              | .ok (db, nested, _) => ({ pr with db := db, nested := pr.nested + nested }, none)
              | .error s => (pr, some s)

def runDelete (fire : Firing) (n : Nat) (c : Connection) (p : DeletePlan) : Progress × Option Stop :=
  let start : Progress := { db := c.db, lastRowid := c.counters.lastRowid }
  match c.db.tableIn? p.place p.table with
  | none => (start, some (.noTable p.table, .abort))
  | some t =>
    match selectedRows n c t p.filter with
    | .error f => (start, some (f, .abort))
    | .ok rows =>
      rows.foldl (fun (acc : Progress × Option Stop) r =>
        match acc with
        | (pr, none) => deleteOne fire n c p pr r
        | stopped => stopped) (start, none)

/-! ## Triggers, run -/

def raisedStop : Stop → Stop
  | (.raised kind text, m) =>
    let f := Failure.constraint text 1811
    if kind = "FAIL" then (f, .fail) else if kind = "ROLLBACK" then (f, .rollback)
    else if kind = "ABORT" then (f, .abort) else (f, m)
  | s => s

def runStep (fire : Firing) (n : Nat) (c : Connection) (plan : Plan) : Database × Nat × Option Stop :=
  let after := fun (r : Progress × Option Stop) => (r.1.db, r.1.changes + r.1.nested, r.2)
  match plan with
  | .query q =>
    match evalQuery n (c.scene c.db []) q none with
    | .ok _ => (c.db, 0, none)
    | .error f => (c.db, 0, some (f, .abort))
  | .insert p => after (runInsert fire n c p)
  | .update p => after (runUpdate fire n c p)
  | .delete p => after (runDelete fire n c p)
  | _ => (c.db, 0, none)

def runBody (fire : Firing) (n : Nat) (c : Connection) (lvl : Level) :
    List Stmt → Database → Nat → Database × Nat × Except Stop Bool
  | [], db, k => (db, k, .ok false)
  | s :: rest, db, k =>
    let c' := { c with db := db }
    match prepareStep n c' lvl s with
    | .error f => (db, k, .error (f, .abort))
    | .ok plan =>
      match runStep fire n c' plan with
      | (db', k', none) => runBody fire n c lvl rest db' (k + k')
      | (db', k', some (.raised "IGNORE" _, _)) => (db', k + k', .ok true)
      | (_, _, some s) => (db, k, .error (raisedStop s))

def runTrigger (fire : Firing) (c : Connection) (t : Table) (ev : RowEvent) (new old : List Value) (tr : Trigger) :
    Except Stop (Database × Nat × Bool) := do
  let n := tr.fuel
  let lvl := triggerLevel t ev
  let c := { c with outer := triggerRows ev new old, active := (tr.name, tr.place) :: c.active }
  let holds ← match tr.condition with
    | none => pure true
    | some w =>
      (do
        let w' ← resolveIn n c.db [lvl] w
        evalCond n (c.scene c.db []) w').mapError fun f => raisedStop (f, .abort)
  if !holds then return (c.db, 0, false)
  let (db, k, result) := runBody fire n c lvl tr.body c.db 0
  let ignored ← result
  pure (db, k, ignored)

def fireTriggers : Nat → Firing
  | 0, c, t, time, ev, _, _ =>
    if (c.db.triggersOn t).any fun tr => tr.runsOn time ev && !c.active.contains (tr.name, tr.place) then
      .error (.logic "too many levels of trigger recursion", .abort)
    else .ok (c.db, 0, false)
  | depth + 1, c, t, time, ev, new, old =>
    let due := (c.db.triggersOn t).filter fun tr => tr.runsOn time ev && !c.active.contains (tr.name, tr.place)
    due.foldlM (fun (acc : Database × Nat × Bool) tr =>
      let (db, k, ignored) := acc
      if ignored then pure acc else do
        let (db, k', ignored) ← runTrigger (fireTriggers depth) { c with db := db } t ev new old tr
        pure (db, k + k', ignored)) (c.db, 0, false)

def triggerDepth : Nat := 1000

def Connection.settle (c : Connection) (pr : Progress) (stop : Option Stop) : Connection × Option Failure :=
  match stop with
  | none =>
    let counters : Counters := { changes := pr.changes,
                                 totalChanges := c.counters.totalChanges + pr.changes + pr.nested,
                                 lastRowid := pr.lastRowid }
    ({ c with db := pr.db, counters := counters,
              reported := if pr.returned > 0 then c.counters.changes else pr.changes }, none)
  | some (f, .fail) => ({ c with db := pr.db, counters := { c.counters with lastRowid := pr.lastRowid } }, some f)
  | some (f, .rollback) =>
    match c.transaction with
    | some tx => ({ c with db := c.db.restoredFrom tx.start, transaction := none }, some f)
    | none => (c, some f)
  | some (f, _) => (c, some f)

/-! ## Transactions -/

def run (n : Nat) (c : Connection) : Plan → Connection × Option Failure
  | .query q =>
    match evalQuery n (c.scene c.db []) q (some 1) with
    | .ok _ => ({ c with reported := c.counters.changes }, none)
    | .error f => (c, some f)
  | .insert p => let (pr, stop) := runInsert (fireTriggers triggerDepth) n c p; c.settle pr stop
  | .update p => let (pr, stop) := runUpdate (fireTriggers triggerDepth) n c p; c.settle pr stop
  | .delete p => let (pr, stop) := runDelete (fireTriggers triggerDepth) n c p; c.settle pr stop
  | .begin =>
    match c.transaction with
    | some _ => (c, some (.logic "cannot start a transaction within a transaction"))
    | none => ({ c with transaction := some ⟨c.db, false, []⟩, reported := c.counters.changes }, none)
  | .commit =>
    match c.transaction with
    | some _ => ({ c with transaction := none, reported := c.counters.changes }, none)
    | none => (c, some (.logic "cannot commit - no transaction is active"))
  | .rollback none =>
    match c.transaction with
    | some tx => ({ c with db := c.db.restoredFrom tx.start, transaction := none, reported := c.counters.changes }, none)
    | none => (c, some (.logic "cannot rollback - no transaction is active"))
  | .rollback (some name) =>
    match c.transaction with
    | some tx =>
      match tx.savepoints.findIdx? (sameName ·.1 name) with
      | some k =>
        let kept := tx.savepoints.drop k
        let db := c.db.restoredFrom ((kept.head?.map (·.2)).getD c.db)
        ({ c with db := db, transaction := some { tx with savepoints := kept }, reported := c.counters.changes }, none)
      | none => (c, some (.logic ("no such savepoint: " ++ name)))
    | none => (c, some (.logic ("no such savepoint: " ++ name)))
  | .savepoint name =>
    let tx := c.transaction.getD ⟨c.db, true, []⟩
    ({ c with transaction := some { tx with savepoints := (name, c.db) :: tx.savepoints },
              reported := c.counters.changes }, none)
  | .release name =>
    match c.transaction with
    | some tx =>
      match tx.savepoints.findIdx? (sameName ·.1 name) with
      | some k =>
        let kept := tx.savepoints.drop (k + 1)
        let c := { c with reported := c.counters.changes }
        if kept.isEmpty && tx.bySavepoint then ({ c with transaction := none }, none)
        else ({ c with transaction := some { tx with savepoints := kept } }, none)
      | none => (c, some (.logic ("no such savepoint: " ++ name)))
    | none => (c, some (.logic ("no such savepoint: " ++ name)))
  | .define (.ok none) => ({ c with reported := c.counters.changes }, none)
  | .define (.ok (some db)) => ({ c with db := db, reported := c.counters.changes }, none)
  | .define (.error f) => (c, some f)
  | .fill t q =>
    match fillTable n (c.scene c.db []) t q with
    | .ok db => ({ c with db := db, reported := c.counters.changes }, none)
    | .error f => (c, some f)
  | .vacuum =>
    if c.transaction.isSome then (c, some (.logic "cannot VACUUM from within a transaction"))
    else ({ c with reported := c.counters.changes }, none)
  | .attach file name =>
    let attached := do
      let _ ← evalExpr n (c.scene c.db []) file
      let v ← evalExpr n (c.scene c.db []) name
      c.db.attach (Bytes.toTextLossy v.textBytes)
    match attached with
    | .ok db => ({ c with db := db, reported := c.counters.changes }, none)
    | .error f => (c, some f)
  | .detach name =>
    let detached := do
      let v ← evalExpr n (c.scene c.db []) name
      c.db.detach c.transaction.isSome (Bytes.toTextLossy v.textBytes)
    match detached with
    | .ok db => ({ c with db := db, reported := c.counters.changes }, none)
    | .error f => (c, some f)
  | .nothing => ({ c with reported := c.counters.changes }, none)

/-! ## Scripts -/

def bindingFailure (vars : List String) : Option Failure :=
  if vars.isEmpty then none else
  let step := fun (acc : Nat × List (Nat × String)) (v : String) =>
    let (count, names) := acc
    match v.toList with
    | ['?'] => (count + 1, names)
    | '?' :: ds =>
      let k := ds.foldl (fun a d => a * 10 + (d.toNat - 48)) 0
      let names := if names.any (·.1 == k) then names else names ++ [(k, v)]
      (max count k, names)
    | _ =>
      if names.any (·.2 == v) then (count, names) else (count + 1, names ++ [(count + 1, v)])
  let (_, names) := vars.foldl step (0, [])
  match names.find? (·.1 == 1) with
  | some (_, name) => some (.binding ("missing named argument " ++ Text.quoted (String.ofList (name.toList.drop 1))))
  | none => some (.binding "missing argument with index 1")

def runTokens : Nat → Connection → List Token → Connection × Option Failure
  | 0, c, _ => (c, none)
  | fuel + 1, c, ts =>
    match nextStatement ts with
    | none => (c, none)
    | some (.error f, _) => (c, some f)
    | some (.ok s, rest) =>
      let own := ts.take (ts.length - rest.length)
      let n := fuelFor own
      match prepareStatement n c s with
      | .error f => (c, some f)
      | .ok plan =>
        match bindingFailure ((own.filter (·.kind == .variable)).map (·.raw)) with
        | some f => (c, some f)
        | none =>
          match run n c plan with
          | (c', none) => runTokens fuel c' rest
          | (c', some f) => (c', some f)

def runScript (db : Database) (clockMs : Int) (sql : String) : Database × Except Failure Int :=
  let ts := tokenize sql
  let (c, failure) := runTokens (ts.length + 1) { db := db, clockMs := clockMs } ts
  let db := (match c.transaction with
    | some tx => tx.start
    | none => c.db).withoutTemp
  match failure with
  | some f => (db, .error f)
  | none => (db, .ok c.reported)

def builtFuel : Nat := 256

def runStatement (db : Database) (clockMs : Int) (s : Stmt) : Except Failure Database :=
  let c : Connection := { db := db, clockMs := clockMs }
  match prepareStatement builtFuel c s with
  | .error f => .error f
  | .ok plan =>
    match run builtFuel c plan with
    | (c', none) => .ok c'.db
    | (_, some f) => .error f

def queryRows (db : Database) (clockMs : Int) (q : Query) : Except Failure (List String × List (List Value)) := do
  let r ← resolveQuery builtFuel db [] q
  let rows ← evalQuery builtFuel { db := db, clockMs := clockMs } r.query none
  pure (r.columns.map (·.1), rows)

end Issuance.Sql
