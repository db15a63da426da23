import Issuance.Sql.Write
import Issuance.Sql.Statement
/-! # Defining tables, indexes and views

Each definition fails with the database's message or gives the database
after. An `INTEGER PRIMARY KEY` column holds the rowid; other keys and
`UNIQUE` make an index `sqlite_autoindex_<table>_<n>` unless one exists. -/
namespace Issuance.Sql

def keywords : List String :=
  ["ABORT", "ACTION", "ADD", "AFTER", "ALL", "ALTER", "ALWAYS", "ANALYZE", "AND", "AS", "ASC", "ATTACH",
    "AUTOINCREMENT", "BEFORE", "BEGIN", "BETWEEN", "BY", "CASCADE", "CASE", "CAST", "CHECK", "COLLATE", "COLUMN",
    "COMMIT", "CONFLICT", "CONSTRAINT", "CREATE", "CROSS", "CURRENT", "CURRENT_DATE", "CURRENT_TIME",
    "CURRENT_TIMESTAMP", "DATABASE", "DEFAULT", "DEFERRABLE", "DEFERRED", "DELETE", "DESC", "DETACH", "DISTINCT",
    "DO", "DROP", "EACH", "ELSE", "END", "ESCAPE", "EXCEPT", "EXCLUDE", "EXCLUSIVE", "EXISTS", "EXPLAIN", "FAIL",
    "FILTER", "FIRST", "FOLLOWING", "FOR", "FOREIGN", "FROM", "FULL", "GENERATED", "GLOB", "GROUP", "GROUPS",
    "HAVING", "IF", "IGNORE", "IMMEDIATE", "IN", "INDEX", "INDEXED", "INITIALLY", "INNER", "INSERT", "INSTEAD",
    "INTERSECT", "INTO", "IS", "ISNULL", "JOIN", "KEY", "LAST", "LEFT", "LIKE", "LIMIT", "MATCH", "MATERIALIZED",
    "NATURAL", "NO", "NOT", "NOTHING", "NOTNULL", "NULL", "NULLS", "OF", "OFFSET", "ON", "OR", "ORDER", "OTHERS",
    "OUTER", "OVER", "PARTITION", "PLAN", "PRAGMA", "PRECEDING", "PRIMARY", "QUERY", "RAISE", "RANGE",
    "RECURSIVE", "REFERENCES", "REGEXP", "REINDEX", "RELEASE", "RENAME", "REPLACE", "RESTRICT", "RETURNING",
    "RIGHT", "ROLLBACK", "ROW", "ROWS", "SAVEPOINT", "SELECT", "SET", "TABLE", "TEMP", "TEMPORARY", "THEN", "TIES",
    "TO", "TRANSACTION", "TRIGGER", "UNBOUNDED", "UNION", "UNIQUE", "UPDATE", "USING", "VACUUM", "VALUES", "VIEW",
    "VIRTUAL", "WHEN", "WHERE", "WINDOW", "WITH", "WITHOUT"]

def quoteName (s : String) : String :=
  let cs := s.toList
  let plain := !cs.isEmpty && cs.all (fun c => (c.isAlphanum && c.toNat < 128) || c = '_') &&
    !(cs.head?.map Char.isDigit).getD false && !keywords.contains (String.ofList (cs.map Char.toUpper))
  if plain then s else "\"" ++ String.ofList (cs.flatMap fun c => if c = '"' then ['"', '"'] else [c]) ++ "\""

def isInternalName (n : String) : Bool := (n.toList.take 7).map foldAscii == "sqlite_".toList

def knownCollation (c : String) : Bool := ["BINARY", "NOCASE", "RTRIM"].any (sameName c)

def targetSchema (db : Database) (temp : Bool) (tn : TableName) : Except Failure Place :=
  match tn.schema with
  | none => .ok (if temp then .temp else .main)
  | some s =>
    match db.placeNamed? s with
    | some .temp => .ok .temp
    | some p => if temp then .error (.logic "temporary table name must be unqualified") else .ok p
    | none => .error (.logic ("unknown database " ++ s))

/-! ## Walking names -/

def Expr.names : Nat → Expr → List (List String)
  | 0, _ => []
  | n + 1, e =>
    match e with
    | .name parts _ _ => [parts]
    | .unary _ a | .isNull a _ | .cast a _ | .collate a _ | .field a _ | .truth a _ _ | .inQuery a _ _
    | .inTable a _ _ => Expr.names n a
    | .binary _ a b => Expr.names n a ++ Expr.names n b
    | .inList a items _ => Expr.names n a ++ items.flatMap (Expr.names n)
    | .between a lo hi _ => Expr.names n a ++ Expr.names n lo ++ Expr.names n hi
    | .pattern _ a p esc _ => Expr.names n a ++ Expr.names n p ++ (esc.map (Expr.names n)).getD []
    | .call _ args _ _ | .vector args => args.flatMap (Expr.names n)
    | .aggregate _ args _ _ filter => (args ++ filter.toList).flatMap (Expr.names n)
    | .applied _ _ args _ _ filter overClause => (args ++ clauseTerms filter overClause).flatMap (Expr.names n)
    | .case base arms other =>
      (base.map (Expr.names n)).getD [] ++ arms.flatMap (fun (c, v) => Expr.names n c ++ Expr.names n v) ++
        (other.map (Expr.names n)).getD []
    | _ => []

def Expr.mapNames (f : List String → List String) : Nat → Expr → Expr
  | 0, e => e
  | n + 1, e =>
    let go := Expr.mapNames f n
    match e with
    | .name parts q dq => .name (f parts) q dq
    | .unary op a => .unary op (go a)
    | .isNull a neg => .isNull (go a) neg
    | .cast a t => .cast (go a) t
    | .collate a c => .collate (go a) c
    | .field a i => .field (go a) i
    | .truth a w neg => .truth (go a) w neg
    | .inQuery a q neg => .inQuery (go a) q neg
    | .inTable a t neg => .inTable (go a) t neg
    | .binary op a b => .binary op (go a) (go b)
    | .inList a items neg => .inList (go a) (items.map go) neg
    | .between a lo hi neg => .between (go a) (go lo) (go hi) neg
    | .pattern op a p esc neg => .pattern op (go a) (go p) (esc.map go) neg
    | .call f' args d s => .call f' (args.map go) d s
    | .aggregate f' args d s filter => .aggregate f' (args.map go) d s (filter.map go)
    | .applied k f' args d s filter overClause => .applied k f' (args.map go) d s (filter.map go) (overClause.map (Window.mapTerms go))
    | .vector args => .vector (args.map go)
    | .case base arms other => .case (base.map go) (arms.map fun (c, v) => (go c, go v)) (other.map go)
    | e => e

def Expr.unsettled : Nat → Expr → Option String
  | 0, _ => none
  | n + 1, e =>
    let any := fun (xs : List Expr) => xs.findSome? (Expr.unsettled n)
    match e with
    | .exists _ | .subquery _ | .inQuery .. => some "subqueries"
    | .var _ => some "parameters"
    | .call f args _ _ =>
      if ["random", "randomblob", "changes", "total_changes", "last_insert_rowid"].any (sameName f) then
        some "non-deterministic functions"
      else any args
    | .unary _ a | .isNull a _ | .cast a _ | .collate a _ | .field a _ | .truth a _ _ | .inTable a _ _ => any [a]
    | .binary _ a b => any [a, b]
    | .inList a items _ => any (a :: items)
    | .between a lo hi _ => any [a, lo, hi]
    | .pattern _ a p esc _ => any ([a, p] ++ esc.toList)
    | .vector args => any args
    | .aggregate _ args _ _ filter => any (args ++ filter.toList)
    | .applied _ _ args _ _ filter overClause => any (args ++ clauseTerms filter overClause)
    | .case base arms other => any (base.toList ++ arms.flatMap (fun (c, v) => [c, v]) ++ other.toList)
    | _ => none

def Expr.isConstant : Nat → Expr → Bool
  | 0, _ => true
  | n + 1, e =>
    let all := fun (xs : List Expr) => xs.all (Expr.isConstant n)
    match e with
    | .name [c] false _ => sameName c "true" || sameName c "false"
    | .name .. | .bound .. | .var _ | .exists _ | .subquery _ | .inQuery .. | .inTable .. => false
    | .unary _ a | .isNull a _ | .cast a _ | .collate a _ | .field a _ | .truth a _ _ => all [a]
    | .binary _ a b => all [a, b]
    | .inList a items _ => all (a :: items)
    | .between a lo hi _ => all [a, lo, hi]
    | .pattern _ a p esc _ => all ([a, p] ++ esc.toList)
    | .call _ args _ _ | .vector args => all args
    | .aggregate _ args _ _ filter => all (args ++ filter.toList)
    | .applied _ _ args _ _ filter overClause => all (args ++ clauseTerms filter overClause)
    | .case base arms other => all (base.toList ++ arms.flatMap (fun (c, v) => [c, v]) ++ other.toList)
    | _ => true

def Expr.plainValue? : Expr → Option Value
  | .lit v => some v
  | .integer t => integerValue t false
  | .unary .neg (.integer t) => integerValue t true
  | .unary .neg (.lit (.real r)) => some (.real r.negate)
  | .unary .pos e => e.plainValue?
  | .name [c] false _ => if sameName c "true" then some (.int 1) else if sameName c "false" then some (.int 0) else none
  | _ => none

def namesColumn (t : Table) (col : String) (parts : List String) : Bool :=
  match parts with
  | [c] => sameName c col
  | [tb, c] => sameName tb t.name && sameName c col
  | _ => false

/-! ## Tables -/

structure Draft where
  table : Table
  indexes : List Index := []
  hasKey : Bool := false

def Draft.setColumn (d : Draft) (k : Nat) (f : Column → Column) : Draft :=
  { d with table := { d.table with columns := d.table.columns.modify k f } }

/-- The draft with a constraint's index, unless one on the same columns
exists; that one takes the new conflict clause (two differing are refused)
and becomes the primary key's. -/
def Draft.addIndex (d : Draft) (cols : List Nat) (primary : Bool) (oc : Option Conflict) : Except Failure Draft :=
  match d.indexes.findIdx? (·.columns == cols) with
  | some j =>
    let i := d.indexes.getD j default
    if i.onConflict.isSome && oc.isSome && i.onConflict != oc then
      .error (.logic "conflicting ON CONFLICT clauses specified")
    else .ok { d with indexes := d.indexes.set j { i with onConflict := i.onConflict <|> oc, primary := i.primary || primary } }
  | none =>
    let name := "sqlite_autoindex_" ++ d.table.name ++ "_" ++ toString (d.indexes.length + 1)
    .ok { d with indexes := d.indexes ++ [{ name := name, table := d.table.name, columns := cols, unique := true,
                                             primary := primary, onConflict := oc, place := d.table.place }] }

def Draft.keyColumns (n : Nat) (db : Database) (d : Draft) (terms : List (Expr × Bool)) : Except Failure (List Nat) :=
  terms.mapM fun (e, _) =>
    let e := match e with
      | .collate x _ => x
      | x => x
    let named : Option String := match e with
      | .name [c] _ _ => some c
      | .lit (.text c) => some (Bytes.toTextLossy c)
      | _ => none
    match named with
    | some c =>
      match d.table.columnIndex? c with
      | some k => .ok k
      | none => .error (.noColumn c)
    | none => do
      let _ ← resolveOn n db d.table e
      throw (.logic "expressions prohibited in PRIMARY KEY and UNIQUE constraints")

def Draft.markKey (d : Draft) (k : Nat) : Except Failure Draft :=
  if ((d.table.columns.getD k default).generated).isSome then
    .error (.logic "generated columns cannot be part of the PRIMARY KEY")
  else .ok (d.setColumn k fun c => { c with inPrimaryKey := true })

def Draft.primaryKey (n : Nat) (db : Database) (d : Draft) (terms : Option (List (Expr × Bool))) (desc : Bool)
    (oc : Option Conflict) (auto : Bool) : Except Failure Draft := do
  if d.hasKey then throw (.logic ("table \"" ++ d.table.name ++ "\" has more than one primary key"))
  let d := { d with hasKey := true }
  let last := d.table.columns.length - 1
  let (d, col, count) ← match terms with
    | none => do
      let d ← d.markKey last
      pure (d, some last, 1)
    | some ts =>
      ts.foldlM (fun (acc : Draft × Option Nat × Nat) (e, _) => do
        let (d, col, count) := acc
        let e := match e with
          | .collate x _ => x
          | x => x
        let named : Option String := match e with
          | .name [c] _ _ => some c
          | .lit (.text c) => some (Bytes.toTextLossy c)
          | _ => none
        match named.bind d.table.columnIndex? with
        | some k => do
          let d ← d.markKey k
          pure (d, some k, count + 1)
        | none => pure (d, col, count + 1)) (d, none, 0)
  let integerKey := match col with
    | some k => count = 1 && standardType? (d.table.columns.getD k default).type == some "INTEGER" && !desc
    | none => false
  if integerKey then
    pure { d with table := { d.table with rowidColumn := col, keyConflict := oc, autoincrement := auto } }
  else if auto then throw (.logic "AUTOINCREMENT is only allowed on an INTEGER PRIMARY KEY")
  else do
    let cols ← match terms with
      | none => pure [last]
      | some ts => d.keyColumns n db ts
    d.addIndex cols true oc

def Draft.columnRule (n : Nat) (db : Database) (d : Draft) (r : ColumnRule) : Except Failure Draft :=
  let k := d.table.columns.length - 1
  let col := d.table.columns.getD k default
  match r with
  | .notNull oc => .ok (d.setColumn k fun c => { c with notNull := some oc })
  | .primary desc oc auto => d.primaryKey n db none desc oc auto
  | .unique oc => (d.setColumn k fun c => { c with declaredUnique := true }).addIndex [k] false oc
  | .check name e => .ok { d with table := { d.table with checks := d.table.checks ++ [(name, e)] } }
  | .default e =>
    if !Expr.isConstant 64 e then .error (.logic ("default value of column [" ++ col.name ++ "] is not constant"))
    else if col.generated.isSome then .error (.logic "cannot use DEFAULT on a generated column")
    else .ok (d.setColumn k fun c => { c with default := some e })
  | .collate c =>
    if knownCollation c then .ok (d.setColumn k fun x => { x with collation := some c })
    else .error (.logic ("no such collation sequence: " ++ c))
  | .generated e stored =>
    if col.default.isSome then .error (.logic ("error in generated column \"" ++ col.name ++ "\""))
    else if col.inPrimaryKey then .error (.logic "generated columns cannot be part of the PRIMARY KEY")
    else .ok (d.setColumn k fun c => { c with generated := some (e, stored) })

def Draft.column (n : Nat) (db : Database) (d : Draft) (c : ColumnDef) : Except Failure Draft := do
  if d.table.columns.any (sameName ·.name c.name) then throw (.logic ("duplicate column name: " ++ c.name))
  let d := { d with table := { d.table with columns := d.table.columns ++ [{ name := c.name, type := c.type }] } }
  c.rules.foldlM (Draft.columnRule n db) d

def Draft.tableRule (n : Nat) (db : Database) (d : Draft) : TableRule → Except Failure Draft
  | .primary terms auto oc => d.primaryKey n db (some terms) false oc auto
  | .unique terms oc => do
    let cols ← d.keyColumns n db terms
    d.addIndex cols false oc
  | .check name e => .ok { d with table := { d.table with checks := d.table.checks ++ [(name, e)] } }

def refuseUnsettled (what : String) (e : Expr) : Except Failure Unit :=
  match Expr.unsettled 64 e with
  | some thing => .error (.logic (thing ++ " prohibited in " ++ what))
  | none => .ok ()

def Draft.finish (n : Nat) (db : Database) (d : Draft) (strict withoutRowid : Bool) : Except Failure Draft := do
  let t := d.table
  let t ← if strict then do
      let cols ← t.columns.mapM fun (c : Column) =>
        match standardType? c.type with
        | none =>
          if c.type.isEmpty then throw (.logic ("missing datatype for " ++ t.name ++ "." ++ c.name))
          else throw (.logic ("unknown datatype for " ++ t.name ++ "." ++ c.name ++ ": \"" ++ c.type ++ "\""))
        | some ty => pure { c with affinity := if ty = "ANY" then .blob else c.affinity }
      let cols := cols.zipIdx.map fun (c, k) =>
        if c.inPrimaryKey && t.rowidColumn != some k && c.notNull.isNone then { c with notNull := some none } else c
      pure { t with columns := cols, strict := true }
    else pure t
  let d := { d with table := t }
  let d ← if withoutRowid then do
      if t.autoincrement then throw (.logic "AUTOINCREMENT not allowed on WITHOUT ROWID tables")
      if !d.hasKey then throw (.logic ("PRIMARY KEY missing on table " ++ t.name))
      let d ← match t.rowidColumn with
        | some k => ({ d with table := { t with rowidColumn := none } }).addIndex [k] true t.keyConflict
        | none => pure d
      let cols := d.table.columns.map fun c =>
        if c.inPrimaryKey && c.notNull.isNone then { c with notNull := some none } else c
      pure { d with table := { d.table with columns := cols, withoutRowid := true } }
    else pure d
  d.table.checks.forM fun (_, e) => do
    let _ ← resolveOn n db d.table e
    refuseUnsettled "CHECK constraints" e
  let generated := d.table.columns.filterMap fun c => c.generated.map (·.1)
  generated.forM fun e => do
    let _ ← resolveOn n db d.table e
    refuseUnsettled "generated columns" e
  if !generated.isEmpty && d.table.columns.all (·.generated.isSome) then
    throw (.logic "must have at least one non-generated column")
  pure d

def checkNewTable (db : Database) (p : Place) (ifNotExists : Bool) (name written : String) :
    Except Failure (Option Unit) :=
  if isInternalName name then .error (.logic ("object name reserved for internal use: " ++ name)) else
  let existing : Option String :=
    if (db.tableIn? p name).isSome then some "table"
    else if (db.views.any fun v => sameName v.name name && v.place == p) then some "view" else none
  match existing with
  | some kind => if ifNotExists then .ok none else .error (.logic (kind ++ " " ++ written ++ " already exists"))
  | none =>
    if db.indexes.any (fun i => sameName i.name name && i.place == p) then
      .error (.logic ("there is already an index named " ++ name))
    else .ok (some ())

def sequenceTableAt (p : Place) (seq : Nat) : Table :=
  { name := sequenceTable, columns := [{ name := "name" }, { name := "seq" }], place := p,
    sql := some "CREATE TABLE sqlite_sequence(name,seq)", seq := seq }

def Database.addTable (db : Database) (t : Table) (indexes : List Index) : Database :=
  let seq := db.nextSeq t.place
  let t := { t with seq := seq }
  let indexes := indexes.zipIdx.map fun (i, k) => { i with seq := seq + 1 + k }
  let db := { db with tables := db.tables ++ [t], indexes := db.indexes ++ indexes }
  if t.autoincrement && (db.tableIn? t.place sequenceTable).isNone then
    { db with tables := db.tables ++ [sequenceTableAt t.place (seq + 1 + indexes.length)] }
  else db

def defineTable (n : Nat) (db : Database) (d : TableDef) : Except Failure (Option Database) := do
  let p ← targetSchema db d.temp d.name
  let some () ← checkNewTable db p d.ifNotExists d.name.name d.written | return none
  let draft : Draft := { table := { name := d.name.name, columns := [], place := p, sql := some d.sql } }
  let draft ← d.columns.foldlM (Draft.column n db) draft
  let draft ← d.rules.foldlM (Draft.tableRule n db) draft
  let draft ← draft.finish n db d.strict d.withoutRowid
  pure (some (db.addTable draft.table draft.indexes))

def Affinity.declared : Affinity → String
  | .text => "TEXT"
  | .numeric => "NUM"
  | .integer => "INT"
  | .real => "REAL"
  | _ => ""

def tableText (name : String) (cols : List (String × String)) : String :=
  let size := cols.foldl (fun acc (c, _) => acc + c.length + 2 + (c.toList.filter (· = '"')).length + 5) 0 +
    name.length + 2 + (name.toList.filter (· = '"')).length
  let (sep, sep2, close) := if size < 50 then ("", ",", ")") else ("\n  ", ",\n  ", "\n)")
  let items := cols.map fun (c, ty) => quoteName c ++ (if ty.isEmpty then "" else " " ++ ty)
  "CREATE TABLE " ++ quoteName name ++ "(" ++ sep ++ sep2.intercalate items ++ close

/-- `CREATE TABLE … AS` before its query runs: the empty table typed after
the query, and the query resolved; none under `IF NOT EXISTS` if present. -/
def tableFromQuery (n : Nat) (db : Database) (temp ifNotExists : Bool) (tn : TableName) (written : String)
    (q : Query) : Except Failure (Option (Table × Query)) := do
  let p ← targetSchema db temp tn
  let some () ← checkNewTable db p ifNotExists tn.name written | return none
  let r ← resolveQuery n db [] q
  let names := columnNames (r.columns.map (·.1))
  let types := r.columns.map fun (_, a) => a.declared
  let cols : List Column := (names.zip types).map fun (nm, ty) => { name := nm, type := ty }
  pure (some ({ name := tn.name, columns := cols, place := p, sql := some (tableText tn.name (names.zip types)) },
    r.query))

def fillTable (n : Nat) (sc : Scene) (t : Table) (q : Query) : Except Failure Database := do
  let rows ← evalQuery n { sc with env := [] } q none
  let stored := rows.zipIdx.map fun (vals, k) =>
    (⟨k + 1, (t.columns.zip vals).map fun (c, v) => c.affinity.store v⟩ : Row)
  pure (sc.db.addTable { t with rows := stored } [])

/-! ## Indexes -/

def defineIndex (n : Nat) (sc : Scene) (unique ifNotExists : Bool) (tn : TableName) (tableName : String)
    (terms : List (Expr × Bool)) (filter : Option Expr) (sql : String) :
    Except Failure (Option (Except Failure Database)) := do
  let db := sc.db
  let named : Option Place ← match tn.schema with
    | none => pure none
    | some s =>
      match db.placeNamed? s with
      | some p => pure (some p)
      | none => throw (.logic ("unknown database " ++ s))
  let t ← match named with
    | none =>
      match db.findTable none tableName with
      | some t => pure t
      | none =>
        if (db.findView none tableName).isSome then throw (.logic "views may not be indexed")
        else throw (.noTable ("main." ++ tableName))
    | some p =>
      match db.tableIn? p tableName with
      | some t => pure t
      | none =>
        match (db.findTable none tableName), p with
        | some _, .temp => throw (.logic ("cannot create a TEMP index on non-TEMP table \"" ++ tableName ++ "\""))
        | _, _ =>
          if (db.findView (some p.name) tableName).isSome then throw (.logic "views may not be indexed")
          else throw (.noTable (p.name ++ "." ++ tableName))
  let p := t.place
  if isInternalName t.name then throw (.logic ("table " ++ t.name ++ " may not be indexed"))
  if isInternalName tn.name then throw (.logic ("object name reserved for internal use: " ++ tn.name))
  if (db.findTable none tn.name).isSome || (db.findView none tn.name).isSome then
    throw (.logic ("there is already a table named " ++ tn.name))
  if db.indexes.any (fun i => sameName i.name tn.name && i.place == p) then
    if ifNotExists then return none else throw (.logic ("index " ++ tn.name ++ " already exists"))
  let cols ← terms.mapM fun (e, _) => do
    let e' ← resolveOn n db t e
    let e' := match e' with
      | .collate x _ => x
      | x => x
    match e' with
    | .bound 0 k _ => pure (some k)
    | _ => do
      refuseUnsettled "index expressions" e
      pure none
  let filter' ← match filter with
    | some f => do
      let f' ← resolveOn n db t f
      refuseUnsettled "partial index WHERE clauses" f
      pure (some f')
    | none => pure none
  let cols := if cols.all Option.isSome then cols.filterMap id else []
  let i : Index := { name := tn.name, table := t.name, columns := cols, unique := unique && !cols.isEmpty,
                     filter := filter, sql := some sql, place := p, seq := db.nextSeq p }
  let held := fun (r : Row) => match filter' with
    | some f => evalCond n { sc with env := [r.sourceRow] } f
    | none => pure true
  let check : Except Failure Unit := do
    if !i.unique then return
    let rows ← t.rows.filterM held
    let keys := rows.filterMap fun r => indexKey i r.values
    let clash := keys.zipIdx.any fun (k, j) => (keys.drop (j + 1)).any (sameRow k)
    if clash then throw (uniqueFailure t i)
  pure (some (check.map fun () => { db with indexes := db.indexes ++ [i] }))

/-! ## Views -/

def defineView (db : Database) (hasParameters temp ifNotExists : Bool) (tn : TableName) (written : String)
    (columns : List String) (q : Query) (sql : String) : Except Failure (Option Database) := do
  if hasParameters then throw (.logic "parameters are not allowed in views")
  let p ← targetSchema db temp tn
  let some () ← checkNewTable db p ifNotExists tn.name written | return none
  let v : View := { name := tn.name, columns := columns, query := q, place := p, sql := sql, seq := db.nextSeq p }
  pure (some { db with views := db.views ++ [v] })

/-! ## Triggers -/

def triggerSchema (db : Database) (temp : Bool) (tn : TableName) : Except Failure (Option Place) :=
  match tn.schema with
  | none => .ok none
  | some s =>
    if temp then .error (.logic "temporary trigger may not have qualified name")
    else match db.placeNamed? s with
      | some p => .ok (some p)
      | none => .error (.logic ("unknown database " ++ s))

inductive Watched
  | table (t : Table)
  | view (v : View)
  | schemaTable

def watchedOf (db : Database) (schema : Option String) (name : String) : Option Watched :=
  if (schemaTablePlace? db schema name).isSome then some .schemaTable
  else match db.findTable schema name with
    | some t => some (.table t)
    | none => (db.findView schema name).map .view

/-- `CREATE TRIGGER`: the database with the trigger last among its table's,
or none under `IF NOT EXISTS`; without a database it goes where its table
is. -/
def defineTrigger (db : Database) (temp ifNotExists : Bool) (tn : TableName) (written : String)
    (time : TriggerTime) (event : TriggerEvent) (table : TableName) (condition : Option Expr) (body : List Stmt)
    (sql : String) (fuel : Nat) : Except Failure (Option Database) := do
  let named ← triggerSchema db temp tn
  let first := watchedOf db table.schema table.name
  let firstTemp := match first with
    | some (.table t) => t.place == .temp
    | some (.view v) => v.place == .temp
    | _ => false
  let own : Place := if temp || (named.isNone && firstTemp) then .temp else named.getD .main
  let watched ← if own == .temp then
      match first with
      | some w => pure w
      | none => throw (.noTable table.text)
    else do
      match table.schema with
      | some s => if !sameName s own.name then
          throw (.logic ("trigger " ++ written ++ " cannot reference objects in database " ++ s))
      | none => pure ()
      match watchedOf db (some own.name) table.name with
      | some w => pure w
      | none => throw (.noTable (own.name ++ "." ++ table.name))
  if isInternalName tn.name then throw (.logic ("object name reserved for internal use: " ++ tn.name))
  if (db.triggerIn? own tn.name).isSome then
    if ifNotExists then return none else throw (.logic ("trigger " ++ written ++ " already exists"))
  let shown := if own == .temp then table.text else table.name
  let tablePlace ← match watched with
    | .schemaTable => throw (.logic "cannot create trigger on system table")
    | .table t =>
      if isInternalName t.name then throw (.logic "cannot create trigger on system table")
      else if time == .insteadOf then throw (.logic ("cannot create INSTEAD OF trigger on table: " ++ shown))
      else pure t.place
    | .view v =>
      if time != .insteadOf then
        throw (.logic ("cannot create " ++ (if time == .before then "BEFORE" else "AFTER") ++ " trigger on view: " ++
          shown))
      else pure v.place
  let tr : Trigger := { name := tn.name, table := table.name, tablePlace := tablePlace, place := own, time := time,
                        event := event, condition := condition, body := body, sql := sql, seq := db.nextSeq own,
                        fuel := fuel }
  pure (some { db with triggers := db.triggers ++ [tr] })

def dropTriggerNamed (db : Database) (ifExists : Bool) (tn : TableName) : Except Failure (Option Database) :=
  let schemas := match tn.schema with
    | none => db.searchOrder
    | some s => (db.placeNamed? s).toList
  match schemas.findSome? (db.triggerIn? · tn.name) with
  | some tr => .ok (some { db with triggers := db.triggers.filter fun u => !(sameName u.name tr.name && u.place == tr.place) })
  | none => if ifExists then .ok none else .error (.logic ("no such trigger: " ++ tn.text))

/-! ## Changing a table -/

def alteredTable (db : Database) (tn : TableName) : Except Failure (Option Table × Option View) :=
  match db.findTable tn.schema tn.name with
  | some t =>
    if isInternalName t.name then .error (.logic ("table " ++ t.name ++ " may not be altered")) else .ok (some t, none)
  | none =>
    match db.findView tn.schema tn.name with
    | some v => .ok (none, some v)
    | none => .error (.noTable tn.text)

def Table.definition? (t : Table) : Option (List Token × TableDef) :=
  let ts := tokenize (t.sql.getD "")
  match nextStatement ts with
  | some (.ok (.createTable d), _) => some (ts, d)
  | _ => none

def offsetAt (ts : List Token) (left : Nat) : Nat :=
  let before := ts.take (ts.length - left)
  let here := (ts.drop (ts.length - left)).head?
  (tokensText before).length + ((here.map (·.gap.length)).getD 0)

def spliceText (s : String) (place : Nat) (cut : Nat) (piece : String) : String :=
  String.ofList (s.toList.take place) ++ piece ++ String.ofList (s.toList.drop (place + cut))

def renamedToken (old : Token) (new : String) (quoted : Bool) : String :=
  if !quoted && old.kind == .word then new else "\"" ++ String.ofList (new.toList.flatMap fun c => if c = '"' then ['"', '"'] else [c]) ++ "\""

def rewriteTokens (sql : String) (hit : Nat → Token → Bool) (piece : Token → String) : String :=
  let ts := tokenize sql
  let pieces := ts.zipIdx.map fun (t, k) => t.gap ++ (if hit k t then piece t else t.raw)
  (String.join pieces).drop ((ts.head?.map (·.gap.length)).getD 0) |>.toString

def firstOpen (ts : List Token) : Nat := (ts.findIdx? (·.raw == "(")).getD ts.length

def afterOn (ts : List Token) : Nat := ((ts.findIdx? (·.isWord "ON")).map (· + 1)).getD ts.length

def Token.names (t : Token) (name : String) : Bool :=
  (t.kind == .word || (match t.kind with
    | .quotedId _ => true
    | _ => false)) && sameName t.value name

def renameTable (db : Database) (t : Table) (newName : String) : Except Failure Database := do
  if (db.tableIn? t.place newName).isSome || db.views.any (fun v => sameName v.name newName && v.place == t.place) ||
      db.indexes.any (fun i => sameName i.name newName && i.place == t.place) then
    throw (.logic ("there is already another table or index with this name: " ++ newName))
  if isInternalName newName then throw (.logic ("object name reserved for internal use: " ++ newName))
  let old := t.name
  let sql := t.sql.map fun s => rewriteTokens s (fun k _ => k = 2) fun u => renamedToken u newName true
  let t' := { t with name := newName, sql := sql }
  let indexes := db.indexes.map fun i =>
    if sameName i.table old && i.place == t.place then
      let name := if i.sql.isNone && i.name.startsWith ("sqlite_autoindex_" ++ old ++ "_") then
          "sqlite_autoindex_" ++ newName ++ "_" ++ String.ofList (i.name.toList.drop ("sqlite_autoindex_" ++ old ++ "_").length)
        else i.name
      { i with table := newName, name := name,
               sql := i.sql.map fun s => rewriteTokens s (fun k _ => k = afterOn (tokenize s)) fun u => renamedToken u newName true }
    else i
  let db := { db with tables := db.tables.map (fun (u : Table) => if sameName u.name old && u.place == t.place then t' else u),
                      indexes := indexes }
  match db.tableIn? t.place sequenceTable with
  | some seq =>
    let rows := seq.rows.map fun (r : Row) =>
      if r.values.head? == some (.str old) then { r with values := r.values.set 0 (.str newName) } else r
    pure (db.putTable { seq with rows := rows })
  | none => pure db

def Table.reread (n : Nat) (db : Database) (t : Table) (sql : String) : Except Failure Table :=
  match nextStatement (tokenize sql) with
  | some (.ok (.createTable d), _) => do
    let draft : Draft := { table := { name := t.name, columns := [], place := t.place, sql := some sql } }
    let draft ← d.columns.foldlM (Draft.column n db) draft
    let draft ← d.rules.foldlM (Draft.tableRule n db) draft
    let draft ← draft.finish n db d.strict d.withoutRowid
    pure { draft.table with rows := t.rows, seq := t.seq }
  | _ => .ok t

def renameColumn (n : Nat) (db : Database) (t : Table) (old new written : String) (quoted : Bool) :
    Except Failure Database := do
  let some k := t.columnIndex? old | throw (.logic ("no such column: \"" ++ written ++ "\""))
  if t.columns.zipIdx.any (fun (c, j) => j != k && sameName c.name new) then
    throw (.logic ("error in table " ++ t.name ++ " after rename: duplicate column name: " ++ new))
  let oldName := (t.columns.getD k default).name
  let rename := fun (parts : List String) =>
    if namesColumn t oldName parts then parts.dropLast ++ [new] else parts
  let renamed := fun (s : String) =>
    rewriteTokens s (fun j u => j > firstOpen (tokenize s) && u.names oldName) fun u => renamedToken u new quoted
  let t' ← match t.sql with
    | some s =>
      match t.reread n db (renamed s) with
      | .ok t' => pure t'
      | .error f => throw (.logic ("error in table " ++ t.name ++ " after rename: " ++ f.text))
    | none => pure { t with columns := t.columns.modify k fun c => { c with name := new } }
  let indexes := db.indexes.map fun i =>
    if sameName i.table t.name && i.place == t.place then
      { i with filter := i.filter.map (Expr.mapNames rename 64), sql := i.sql.map renamed }
    else i
  pure { db.putTable t' with indexes := indexes }

def addColumnFailure (text : String) : Failure := .constraint text 1811

/-- `ALTER TABLE … ADD COLUMN`: the column last, its default in every row;
key columns are refused, and on a table with rows so are columns a row
could not take. -/
def addColumn (n : Nat) (sc : Scene) (t : Table) (c : ColumnDef) (text : String) : Except Failure Database := do
  let db := sc.db
  let draft : Draft := { table := { t with checks := t.checks } }
  let draft ← draft.column n db c
  let col := draft.table.columns.getD t.columns.length default
  if col.inPrimaryKey then throw (.logic "Cannot add a PRIMARY KEY column")
  if !draft.indexes.isEmpty then throw (.logic "Cannot add a UNIQUE column")
  let filled := !t.rows.isEmpty
  let default := col.default.bind fun d =>
    match d with
    | .lit .null => none
    | d => some d
  let value ← match col.generated with
    | some (_, stored) =>
      if stored && filled then throw (addColumnFailure "cannot add a STORED column") else pure Value.null
    | none =>
      if col.notNull.isSome && default.isNone && filled then
        throw (addColumnFailure "Cannot add a NOT NULL column with default value NULL")
      match default with
      | some d =>
        match d.plainValue? with
        | some v => pure (col.affinity.store v)
        | none => if filled then throw (addColumnFailure "Cannot add a column with non-constant default") else pure .null
      | none => pure .null
  let sql := t.sql.map fun s =>
    match t.definition? with
    | some (ts, d) =>
      let here := offsetAt ts d.addAt
      spliceText s here 0 (", " ++ text)
    | none => s
  let t' := { draft.table with rows := t.rows.map fun r => { r with values := r.values ++ [value] }, sql := sql }
  let rules ← RowRules.of n db t'
  let rows ← if col.generated.isSome then
      t'.rows.mapM fun r => do
        let vals ← withGenerated n sc rules r.values r.rowid
        pure { r with values := vals }
    else pure t'.rows
  let t' := { t' with rows := rows }
  if !t'.checks.isEmpty || (col.notNull.isSome && col.generated.isSome) || t'.strict then
    for r in t'.rows do
      for (c, v) in t'.columns.zip r.values do
        if c.notNull.isSome && v == .null then throw (addColumnFailure "NOT NULL constraint failed")
        if t'.strict && !strictHolds ((standardType? c.type).getD "ANY") v then
          throw (addColumnFailure "type mismatch on DEFAULT")
      for (_, e, _) in rules.checks do
        let v ← evalExpr n { sc with env := [r.sourceRow] } e
        if !(v == .null || v.truthy) then throw (addColumnFailure "CHECK constraint failed")
  pure (db.putTable t')

def dropColumn (db : Database) (t : Table) (name written : String) : Except Failure Database := do
  let some k := t.columnIndex? name | throw (.logic ("no such column: \"" ++ written ++ "\""))
  let col := t.columns.getD k default
  if col.inPrimaryKey || t.rowidColumn == some k then
    throw (.logic ("cannot drop PRIMARY KEY column: \"" ++ col.name ++ "\""))
  if col.declaredUnique then throw (.logic ("cannot drop UNIQUE column: \"" ++ col.name ++ "\""))
  if t.columns.length ≤ 1 then throw (.logic ("cannot drop column \"" ++ col.name ++ "\": no other columns exist"))
  let inTable := t.checks.any (fun (_, e) => (Expr.names 64 e).any (namesColumn t col.name)) ||
    t.columns.any (fun c => (c.generated.map fun (e, _) => (Expr.names 64 e).any (namesColumn t col.name)).getD false) ||
    (db.indexesOf t).any (fun i => i.sql.isNone && i.columns.contains k)
  if inTable then
    throw (.logic ("error in table " ++ t.name ++ " after drop column: no such column: " ++ col.name))
  match (db.indexesOf t).find? fun i => i.sql.isSome &&
      (i.columns.contains k || (i.filter.map fun f => (Expr.names 64 f).any (namesColumn t col.name)).getD false) with
  | some i => throw (.logic ("error in index " ++ i.name ++ " after drop column: no such column: " ++ col.name))
  | none => pure ()
  let shift := fun (j : Nat) => if j > k then j - 1 else j
  let sql := t.sql.map fun s =>
    match t.definition? with
    | some (ts, d) =>
      match d.columns.findIdx? (sameName ·.name col.name) with
      | some j =>
        let start := offsetAt ts ((d.columns.getD j default).left)
        match d.columns[j + 1]? with
        | some next => spliceText s start (offsetAt ts next.left - start) ""
        | none =>
          let stop := offsetAt ts d.addAt
          let before := (s.toList.take start).reverse
          let back := (before.takeWhile (· != ',')).length + 1
          spliceText s (start - back) (stop - (start - back)) ""
      | none => s
    | none => s
  let t' := { t with columns := t.columns.eraseIdx k, sql := sql,
                     rowidColumn := t.rowidColumn.map shift,
                     rows := t.rows.map fun r => { r with values := r.values.eraseIdx k } }
  let indexes := db.indexes.map fun i =>
    if sameName i.table t.name && i.place == t.place then { i with columns := i.columns.map shift } else i
  pure { db.putTable t' with indexes := indexes }

def alterTable (n : Nat) (sc : Scene) (tn : TableName) (change : Alteration) : Except Failure Database := do
  let db := sc.db
  let (t?, v?) ← alteredTable db tn
  match t?, v?, change with
  | some t, _, .renameTable newName => renameTable db t newName
  | some t, _, .renameColumn old new written quoted => renameColumn n db t old new written quoted
  | some t, _, .addColumn c text => addColumn n sc t c text
  | some t, _, .dropColumn name written => dropColumn db t name written
  | _, some v, .renameTable _ => throw (.logic ("view " ++ v.name ++ " may not be altered"))
  | _, some v, .renameColumn .. => throw (.logic ("cannot rename columns of view \"" ++ v.name ++ "\""))
  | _, some _, .addColumn .. => throw (.logic "Cannot add a column to a view")
  | _, some v, .dropColumn .. => throw (.logic ("cannot drop column from view \"" ++ v.name ++ "\""))
  | _, _, _ => throw (.noTable tn.text)

/-! ## Dropping -/

def dropTableNamed (db : Database) (ifExists : Bool) (tn : TableName) : Except Failure (Option Database) :=
  match schemaTablePlace? db tn.schema tn.name with
  | some .temp => .error (.logic "table sqlite_temp_master may not be dropped")
  | some _ => .error (.logic "table sqlite_master may not be dropped")
  | none => dropIt
where
  dropIt : Except Failure (Option Database) :=
    match db.findTable tn.schema tn.name with
    | some t =>
      if isInternalName t.name && !(t.name.toLower.startsWith "sqlite_stat") then
        .error (.logic ("table " ++ t.name ++ " may not be dropped"))
      else
        let db := db.dropTable t.name t.place
        let db := match db.tableIn? t.place sequenceTable with
          | some seq =>
            let rows := seq.rows.filter fun (r : Row) => r.values.head? != some (.str t.name)
            db.putTable { seq with rows := rows }
          | none => db
        .ok (some db)
    | none =>
      match db.findView tn.schema tn.name with
      | some v => .error (.logic ("use DROP VIEW to delete view " ++ v.name))
      | none => if ifExists then .ok none else .error (.noTable tn.text)

def dropIndexNamed (db : Database) (ifExists : Bool) (tn : TableName) : Except Failure (Option Database) :=
  let found := db.indexes.find? fun i => sameName i.name tn.name &&
    (match tn.schema with
      | none => true
      | some s => db.placeNamed? s == some i.place)
  match found with
  | some i =>
    if i.sql.isNone then .error (.logic "index associated with UNIQUE or PRIMARY KEY constraint cannot be dropped")
    else .ok (some { db with indexes := db.indexes.filter fun j => !(sameName j.name i.name && j.place == i.place) })
  | none => if ifExists then .ok none else .error (.logic ("no such index: " ++ tn.text))

def dropViewNamed (db : Database) (ifExists : Bool) (tn : TableName) : Except Failure (Option Database) :=
  match db.findView tn.schema tn.name with
  | some v => .ok (some { db with views := db.views.filter (fun w => !(sameName w.name v.name && w.place == v.place)),
                                  triggers := db.triggers.filter fun tr => !(sameName tr.table v.name && tr.tablePlace == v.place) })
  | none =>
    match db.findTable tn.schema tn.name with
    | some t => .error (.logic ("use DROP TABLE to delete table " ++ t.name))
    | none => if ifExists then .ok none else .error (.logic ("no such view: " ++ tn.text))

/-! ## Attached databases -/

def maxAttached : Nat := 10

def Database.attach (db : Database) (name : String) : Except Failure Database :=
  if db.attached.length ≥ maxAttached then
    .error (.logic ("too many attached databases - max " ++ toString maxAttached))
  else if (db.placeNamed? name).isSome then .error (.logic ("database " ++ name ++ " is already in use"))
  else .ok { db with attached := db.attached ++ [name] }

def Database.without (db : Database) (p : Place) : Database :=
  { tables := db.tables.filter (·.place != p), indexes := db.indexes.filter (·.place != p),
    views := db.views.filter (·.place != p),
    triggers := db.triggers.filter fun tr => tr.place != p && tr.tablePlace != p,
    attached := db.attached.filter fun a => Place.attached a != p }

def Database.holds (db : Database) (p : Place) : Bool :=
  db.tables.any (·.place == p) || db.indexes.any (·.place == p) || db.views.any (·.place == p) ||
    db.triggers.any (·.place == p)

/-- `DETACH`: the connection without an attached database. The main and
the temporary database cannot go, nor, within a transaction, one that
holds anything. -/
def Database.detach (db : Database) (inTransaction : Bool) (name : String) : Except Failure Database :=
  match db.placeNamed? name with
  | some (.attached a) =>
    if inTransaction && db.holds (.attached a) then .error (.logic ("database " ++ name ++ " is locked"))
    else .ok (db.without (.attached a))
  | some .main => .error (.logic ("cannot detach database " ++ name))
  | some .temp =>
    if db.holds .temp then .error (.logic ("cannot detach database " ++ name))
    else .error (.logic ("no such database: " ++ name))
  | none => .error (.logic ("no such database: " ++ name))

def Database.restoredFrom (now earlier : Database) : Database :=
  let gone := earlier.attached.filter fun a => !now.attached.contains a
  { gone.foldl (fun db a => db.without (.attached a)) earlier with attached := now.attached }

def Database.withoutTemp (db : Database) : Database :=
  { tables := db.tables.filter (·.place == .main), indexes := db.indexes.filter (·.place == .main),
    views := db.views.filter (·.place == .main), triggers := db.triggers.filter (·.place == .main) }

theorem Database.withoutTemp_tables (db : Database) : ∀ t ∈ db.withoutTemp.tables, t.place = .main := by
  intro t h
  simp only [Database.withoutTemp, List.mem_filter, beq_iff_eq] at h
  exact h.2

end Issuance.Sql
