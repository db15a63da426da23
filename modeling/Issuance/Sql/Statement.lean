import Issuance.Sql.Definition
/-! # Reading whole statements

A query, a row change, a transaction command, a definition or `DROP`, or a
statement changing no row; `EXPLAIN` reads without running. `Script.next`
reads the next statement, skipping empty ones. -/
namespace Issuance.Sql

def fuelFor (ts : List Token) : Nat := 8 * ts.length + 16

def conflictClause : Reader (Option Conflict) := fun ts =>
  if startsWord ts "OR" then
    match ts.drop 1 with
    | t :: rest =>
      match conflictWord t with
      | some c => .ok (some c, rest)
      | none => .error (failAt (t :: rest))
    | [] => .error .incomplete
  else .ok (none, ts)

def targetTable : Reader (TableName × Option String) := fun ts => do
  let (first, ts) ← name ts
  let (tn, ts) ← if startsSymbol ts "." then do
      let (second, ts) ← name (ts.drop 1)
      pure (TableName.mk (some first) second, ts)
    else pure (TableName.mk none first, ts)
  if startsWord ts "AS" then
    let (a, ts) ← name (ts.drop 1)
    pure ((tn, some a), ts)
  else pure ((tn, none), ts)

def returning (n : Nat) : Reader (Option (List ResultColumn)) := fun ts =>
  if startsWord ts "RETURNING" then do
    let (cols, ts) ← resultColumns n (ts.drop 1)
    pure (some cols, ts)
  else .ok (none, ts)

def whereClause (n : Nat) : Reader (Option Expr) := fun ts =>
  if startsWord ts "WHERE" then do
    let (e, ts) ← exprAt n 1 (ts.drop 1)
    pure (some e, ts)
  else .ok (none, ts)

def assignments (n : Nat) : Nat → Reader (List (String × Expr))
  | 0, _ => .error tooDeep
  | k + 1, ts => do
    let (targets, ts) ← if startsSymbol ts "(" then nameList ts else do
        let (c, ts) ← name ts
        pure ([c], ts)
    let ((), ts) ← symbol "=" ts
    let (e, ts) ← exprAt n 1 ts
    let items := match targets with
      | [c] => [(c, e)]
      | cs => cs.zipIdx.map fun (c, i) => (c, Expr.field e i)
    if startsSymbol ts "," then
      let (more, ts) ← assignments n k (ts.drop 1)
      pure (items ++ more, ts)
    else pure (items, ts)

def upserts (n : Nat) : Nat → Reader (List Upsert)
  | 0, _ => .error tooDeep
  | k + 1, ts =>
    if startsWord ts "ON" then do
      let ((), ts) ← word "CONFLICT" (ts.drop 1)
      let (target, ts) ← if startsSymbol ts "(" then do
          let (terms, ts) ← orderTerms n (ts.drop 1)
          let ((), ts) ← symbol ")" ts
          let (_, ts) ← whereClause n ts
          pure (terms.map (·.1), ts)
        else pure ([], ts)
      let ((), ts) ← word "DO" ts
      let (u, ts) ← if startsWord ts "NOTHING" then pure (Upsert.nothing target, ts.drop 1) else do
        let ((), ts) ← word "UPDATE" ts
        let ((), ts) ← word "SET" ts
        let (sets, ts) ← assignments n (ts.length + 1) ts
        let (filter, ts) ← whereClause n ts
        pure (Upsert.update target sets filter, ts)
      let (more, ts) ← upserts n k ts
      pure (u :: more, ts)
    else .ok ([], ts)

def insertRest (n : Nat) (conflict : Option Conflict) : Reader Stmt := fun ts => do
  let ((), ts) ← word "INTO" ts
  let ((tn, a), ts) ← targetTable ts
  let (cols, ts) ← if startsSymbol ts "(" then do
      let (cs, ts) ← nameList ts
      pure (some cs, ts)
    else pure (none, ts)
  if startsWord ts "DEFAULT" then
    let ((), ts) ← word "VALUES" (ts.drop 1)
    let (ret, ts) ← returning n ts
    pure (.insert conflict tn a cols none [] ret, ts)
  else
    let (q, ts) ← query n ts
    let (ups, ts) ← upserts n (ts.length + 1) ts
    let (ret, ts) ← returning n ts
    pure (.insert conflict tn a cols (some q) ups ret, ts)

def transactionWord : Reader Unit := fun ts =>
  if startsWord ts "TRANSACTION" then
    let ts := ts.drop 1
    match ts with
    | t :: rest => if (t.name? true true).isSome then .ok ((), rest) else .ok ((), ts)
    | [] => .ok ((), ts)
  else .ok ((), ts)

def pragmaValue : Reader Unit := fun ts =>
  match ts with
  | t :: rest =>
    if t.isSymbol "+" || t.isSymbol "-" then
      match rest with
      | u :: rest' => if u.kind = .integer || u.kind = .float then .ok ((), rest') else .error (failAt rest)
      | [] => .error .incomplete
    else if t.kind = .integer || t.kind = .float then .ok ((), rest)
    else if (t.name? true true).isSome || t.isWord "ON" || t.isWord "DELETE" || t.isWord "DEFAULT" then .ok ((), rest)
    else .error (failAt ts)
  | [] => .error .incomplete

/-! ## Triggers -/

def triggerTime : Reader TriggerTime := fun ts =>
  if startsWord ts "BEFORE" then .ok (.before, ts.drop 1)
  else if startsWord ts "AFTER" then .ok (.after, ts.drop 1)
  else if startsWord ts "INSTEAD" then do
    let ((), ts) ← word "OF" (ts.drop 1)
    pure (.insteadOf, ts)
  else .ok (.before, ts)

def triggerEvent : Reader TriggerEvent := fun ts =>
  match ts with
  | t :: rest =>
    if t.isWord "INSERT" then .ok (.insert, rest)
    else if t.isWord "DELETE" then .ok (.delete, rest)
    else if t.isWord "UPDATE" then
      if startsWord rest "OF" then do
        let (cols, ts) ← commaSep name (rest.length + 1) (rest.drop 1)
        pure (.update cols, ts)
      else .ok (.update [], rest)
    else .error (failAt ts)
  | [] => .error .incomplete

def Stmt.qualifiedTarget : Stmt → Bool
  | .insert _ tn .. | .update _ tn .. | .delete tn .. => tn.schema.isSome
  | _ => false

def triggerStep (step : Reader Stmt) : Reader Stmt := fun ts =>
  if !(["INSERT", "REPLACE", "UPDATE", "DELETE", "SELECT", "VALUES", "WITH"].any (startsWord ts)) then
    .error (failAt ts)
  else do
    let (s, rest) ← step ts
    let own := ts.take (ts.length - rest.length)
    let (aliased, defaults, returns) := match s with
      | .insert _ _ a _ rows _ r => (a.isSome, rows.isNone, r.isSome)
      | .update _ _ a _ _ _ r => (a.isSome, false, r.isSome)
      | .delete _ a _ r => (a.isSome, false, r.isSome)
      | _ => (false, false, false)
    let refused := (if aliased then ["AS"] else []) ++ (if defaults then ["DEFAULT"] else []) ++
      (if returns then ["RETURNING"] else [])
    if refused.isEmpty then pure (s, rest)
    else throw (failAt (own.dropWhile fun t => !refused.any t.isWord))

def triggerBody (step : Reader Stmt) : Nat → Reader (List Stmt)
  | 0, _ => .error tooDeep
  | k + 1, ts => do
    let (s, ts) ← triggerStep step ts
    let ((), ts) ← symbol ";" ts
    if startsWord ts "END" then pure ([s], ts.drop 1)
    else
      let (more, ts) ← triggerBody step k ts
      pure (s :: more, ts)

/-- A `CREATE TRIGGER` after `TRIGGER`, its statements read by `step`; its
kept text runs from its name to `END`, and its body may not name its
table's database. -/
def createTrigger (step : Reader Stmt) (n : Nat) (temp : Bool) : Reader Stmt := fun ts => do
  let (ine, ts) ← ifNotExists ts
  let ((tn, nameTok, fromName), ts) ← namedAt ts
  let (time, ts) ← triggerTime ts
  let (event, ts) ← triggerEvent ts
  let ((), ts) ← word "ON" ts
  let (table, ts) ← fullName ts
  let ts ← if startsWord ts "FOR" then do
      let ((), ts) ← word "EACH" (ts.drop 1)
      let ((), ts) ← word "ROW" ts
      pure ts
    else pure ts
  let (condition, ts) ← if startsWord ts "WHEN" then do
      let (e, ts) ← exprAt n 1 (ts.drop 1)
      pure (some e, ts)
    else pure (none, ts)
  let ((), ts) ← word "BEGIN" ts
  let (body, ts) ← triggerBody step (ts.length + 1) ts
  if body.any Stmt.qualifiedTarget then
    throw (.logic "qualified table names are not allowed on INSERT, UPDATE, and DELETE statements within triggers")
  let used := fromName.take (fromName.length - ts.length)
  pure (.createTrigger temp ine tn nameTok.raw time event table condition body
    ("CREATE TRIGGER " ++ tokensText used) (fuelFor used), ts)

def statement : Nat → Reader Stmt
  | 0, _ => .error tooDeep
  | n + 1, ts =>
    match ts with
    | [] => .error .incomplete
    | t :: rest =>
      if t.isWord "EXPLAIN" then do
        let ((), rest) ← if startsWord rest "QUERY" then word "PLAN" (rest.drop 1) else pure ((), rest)
        let (s, ts) ← statement n rest
        pure (.explain s, ts)
      else if t.isWord "SELECT" || t.isWord "VALUES" then do
        let (q, ts) ← query n ts
        pure (.query q, ts)
      else if t.isWord "WITH" then do
        let (defs, ts) ← namedQueries n (skipWord "RECURSIVE" rest).2
        if !(["SELECT", "VALUES", "INSERT", "REPLACE", "UPDATE", "DELETE"].any (startsWord ts)) then
          throw (failAt ts)
        let (s, ts) ← statement n ts
        match s with
        | .query q => pure (.query (.defining defs q), ts)
        | s => pure (.defining defs s, ts)
      else if t.isWord "INSERT" then do
        let (c, ts) ← conflictClause rest
        insertRest n c ts
      else if t.isWord "REPLACE" then insertRest n (some .replace) rest
      else if t.isWord "UPDATE" then do
        let (c, ts) ← conflictClause rest
        let ((tn, a), ts) ← targetTable ts
        let ((), ts) ← indexedBy ts
        let ((), ts) ← word "SET" ts
        let (sets, ts) ← assignments n (ts.length + 1) ts
        let (src, ts) ← if startsWord ts "FROM" then do
            let (s, ts) ← sources n (ts.drop 1)
            pure (some s, ts)
          else pure (none, ts)
        let (filter, ts) ← whereClause n ts
        let (ret, ts) ← returning n ts
        pure (.update c tn a sets src filter ret, ts)
      else if t.isWord "DELETE" then do
        let ((), ts) ← word "FROM" rest
        let ((tn, a), ts) ← targetTable ts
        let ((), ts) ← indexedBy ts
        let (filter, ts) ← whereClause n ts
        let (ret, ts) ← returning n ts
        pure (.delete tn a filter ret, ts)
      else if t.isWord "BEGIN" then
        let ts := if ["DEFERRED", "IMMEDIATE", "EXCLUSIVE"].any (startsWord rest) then rest.drop 1 else rest
        do
          let ((), ts) ← transactionWord ts
          pure (.begin, ts)
      else if t.isWord "COMMIT" || t.isWord "END" then do
        let ((), ts) ← transactionWord rest
        pure (.commit, ts)
      else if t.isWord "ROLLBACK" then do
        let ((), ts) ← transactionWord rest
        if startsWord ts "TO" then
          let ts := (skipWord "SAVEPOINT" (ts.drop 1)).2
          let (sp, ts) ← name ts
          pure (.rollback (some sp), ts)
        else pure (.rollback none, ts)
      else if t.isWord "SAVEPOINT" then do
        let (sp, ts) ← name rest
        pure (.savepoint sp, ts)
      else if t.isWord "RELEASE" then do
        let (sp, ts) ← name (skipWord "SAVEPOINT" rest).2
        pure (.release sp, ts)
      else if t.isWord "CREATE" then
        let (temp, afterTemp) := if startsWord rest "TEMP" || startsWord rest "TEMPORARY" then (true, rest.drop 1)
          else (false, rest)
        if startsWord afterTemp "TRIGGER" then createTrigger (statement n) n temp (afterTemp.drop 1)
        else createStatement n rest
      else if t.isWord "ALTER" then alterStatement n rest
      else if t.isWord "DROP" then
        match rest with
        | k :: rest' =>
          let kind := k.value.toUpper
          if k.kind = .word && ["TABLE", "INDEX", "VIEW", "TRIGGER"].contains kind then do
            let (ifExists, ts) ← if startsWord rest' "IF" then do
                let ((), ts) ← word "EXISTS" (rest'.drop 1)
                pure (true, ts)
              else pure (false, rest')
            let (tn, ts) ← fullName ts
            if kind = "TABLE" then pure (.dropTable ifExists tn, ts)
            else pure (.dropOther kind ifExists tn, ts)
          else .error (failAt rest)
        | [] => .error .incomplete
      else if t.isWord "PRAGMA" then do
        let (_, ts) ← fullName rest
        if startsSymbol ts "=" then
          let ((), ts) ← pragmaValue (ts.drop 1)
          pure (.quiet, ts)
        else if startsSymbol ts "(" then
          let ((), ts) ← pragmaValue (ts.drop 1)
          let ((), ts) ← symbol ")" ts
          pure (.quiet, ts)
        else pure (.quiet, ts)
      else if t.isWord "VACUUM" then do
        let ts := match rest with
          | u :: rest' => if (u.name? true true).isSome && !u.isWord "INTO" then rest' else rest
          | [] => rest
        if startsWord ts "INTO" then
          let (_, ts) ← exprAt n 1 (ts.drop 1)
          pure (.vacuum, ts)
        else pure (.vacuum, ts)
      else if t.isWord "ATTACH" then do
        let (file, ts) ← exprAt n 1 (skipWord "DATABASE" rest).2
        let ((), ts) ← word "AS" ts
        let (name, ts) ← exprAt n 1 ts
        if startsWord ts "KEY" then
          let (_, ts) ← exprAt n 1 (ts.drop 1)
          pure (.attach file name, ts)
        else pure (.attach file name, ts)
      else if t.isWord "DETACH" then do
        let (name, ts) ← exprAt n 1 (skipWord "DATABASE" rest).2
        pure (.detach name, ts)
      else if t.isWord "ANALYZE" || t.isWord "REINDEX" then
        match rest with
        | u :: _ =>
          if (u.name? true true).isSome then do
            let (_, ts) ← fullName rest
            pure (.quiet, ts)
          else .ok (.quiet, rest)
        | [] => .ok (.quiet, rest)
      else .error (failAt ts)

/-- The next statement of a script's tokens, skipping empty ones: `none`
when only semicolons remain, else the statement (or why not) and the tokens
after. -/
def nextStatement (ts : List Token) : Option (Except Failure Stmt × List Token) :=
  let ts := ts.dropWhile (·.isSymbol ";")
  if ts.isEmpty then none else
  match statement (fuelFor ts) ts with
  | .error e => some (.error e, [])
  | .ok (s, rest) =>
    match rest with
    | [] => some (.ok s, [])
    | t :: rest' =>
      if t.isSymbol ";" then some (.ok s, rest') else some (.error (failAt rest), [])

end Issuance.Sql
