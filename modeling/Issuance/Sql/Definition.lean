import Issuance.Sql.Parse
/-! # Reading definitions

Columns with a type of any words and constraints in any order, then table
constraints; a nameless `CHECK` is named by its text. The kept text starts
at the unqualified name. -/
namespace Issuance.Sql

def conflictWord (t : Token) : Option Conflict :=
  if t.isWord "ROLLBACK" then some .rollback
  else if t.isWord "ABORT" then some .abort
  else if t.isWord "FAIL" then some .fail
  else if t.isWord "IGNORE" then some .ignore
  else if t.isWord "REPLACE" then some .replace
  else none

def fullName : Reader TableName := fun ts => do
  let (first, ts) ← name ts
  if startsSymbol ts "." then
    let (second, ts) ← name (ts.drop 1)
    pure (⟨some first, second⟩, ts)
  else pure (⟨none, first⟩, ts)

def namedAt : List Token → Except Failure ((TableName × Token × List Token) × List Token)
  | [] => .error .incomplete
  | t :: rest => do
    let (first, ts) ← name (t :: rest)
    if startsSymbol ts "." then
      match ts.drop 1 with
      | u :: more => do
        let (second, ts) ← name (u :: more)
        pure ((⟨some first, second⟩, u, u :: more), ts)
      | [] => .error .incomplete
    else pure ((⟨none, first⟩, t, t :: rest), ts)

def isSpaceChar (c : Char) : Bool :=
  c = ' ' || c = '\t' || c = '\n' || c.toNat = 11 || c.toNat = 12 || c = '\r'

def trimSpaces (s : String) : String :=
  String.ofList ((s.toList.dropWhile isSpaceChar).reverse.dropWhile isSpaceChar).reverse

def trimEndSpaces (s : String) : String := String.ofList (s.toList.reverse.dropWhile isSpaceChar).reverse

def dequote (s : String) : String :=
  match s.toList with
  | q :: rest =>
    if q = '"' || q = '\'' || q = '`' || q = '[' then
      let close := if q = '[' then ']' else q
      match quotedBody close rest with
      | some (v, _) => String.ofList v
      | none => String.ofList rest
    else s
  | [] => s

def sameWord (a b : String) : Bool := a.toList.map foldAscii == b.toList.map foldAscii

def ifNotExists : Reader Bool := fun ts =>
  if startsWord ts "IF" then do
    let ((), ts) ← word "NOT" (ts.drop 1)
    let ((), ts) ← word "EXISTS" ts
    pure (true, ts)
  else .ok (false, ts)

def signedNumber : Reader Unit := fun ts =>
  let ts := if startsSymbol ts "+" || startsSymbol ts "-" then ts.drop 1 else ts
  match ts with
  | t :: rest => if t.kind = .integer || t.kind = .float then .ok ((), rest) else .error (failAt ts)
  | [] => .error .incomplete

def columnType : Reader String := fun ts =>
  let ws := ts.takeWhile fun t => (t.name? true false).isSome
  if ws.isEmpty then .ok ("", ts) else
  let rest := ts.drop ws.length
  if startsSymbol rest "(" then do
    let ((), r) ← signedNumber (rest.drop 1)
    let r ← if startsSymbol r "," then do
        let ((), r) ← signedNumber (r.drop 1)
        pure r
      else pure r
    let ((), r) ← symbol ")" r
    pure (tokensText (ts.take (ts.length - r.length)), r)
  else .ok (tokensText ws, rest)

def withoutGenerated (ty : String) : String :=
  let cs := ty.toList
  let endsIn := fun (xs : List Char) (w : String) =>
    xs.length ≥ w.length && (xs.drop (xs.length - w.length)).map foldAscii == w.toList
  if cs.length ≥ 16 && endsIn cs "always" then
    let cs := ((cs.take (cs.length - 6)).reverse.dropWhile isSpaceChar).reverse
    if cs.length ≥ 9 && endsIn cs "generated" then
      String.ofList ((cs.take (cs.length - 9)).reverse.dropWhile isSpaceChar).reverse
    else String.ofList cs
  else ty

def onConflict : Reader (Option Conflict) := fun ts =>
  if startsWord ts "ON" then do
    let ((), ts) ← word "CONFLICT" (ts.drop 1)
    match ts with
    | t :: rest =>
      match conflictWord t with
      | some c => pure (some c, rest)
      | none => .error (failAt ts)
    | [] => .error .incomplete
  else .ok (none, ts)

def direction (ts : List Token) : Bool × List Token :=
  if startsWord ts "DESC" then (true, ts.drop 1)
  else if startsWord ts "ASC" then (false, ts.drop 1)
  else (false, ts)

def collationName : Reader String := fun ts =>
  match ts with
  | t :: rest =>
    match t.name? true false with
    | some n => .ok (n, rest)
    | none => .error (failAt ts)
  | [] => .error .incomplete

def listedColumn : Reader String := fun ts => do
  let (n, ts) ← name ts
  let (_, ts) ← if startsWord ts "COLLATE" then collationName (ts.drop 1) else pure ("", ts)
  pure (n, (direction ts).2)

def listedColumns : Reader (List String) := fun ts => do
  let ((), ts) ← symbol "(" ts
  let (ns, ts) ← commaSep listedColumn (ts.length + 1) ts
  let ((), ts) ← symbol ")" ts
  pure (ns, ts)

def foreignAction : Reader Unit := fun ts =>
  match ts with
  | t :: rest =>
    if t.isWord "SET" then
      if startsWord rest "NULL" || startsWord rest "DEFAULT" then .ok ((), rest.drop 1) else .error (failAt rest)
    else if t.isWord "CASCADE" || t.isWord "RESTRICT" then .ok ((), rest)
    else if t.isWord "NO" then do
      let ((), ts) ← word "ACTION" rest
      pure ((), ts)
    else .error (failAt ts)
  | [] => .error .incomplete

def foreignActions : Nat → Reader Unit
  | 0, _ => .error tooDeep
  | k + 1, ts =>
    if startsWord ts "MATCH" then do
      let (_, ts) ← name (ts.drop 1)
      foreignActions k ts
    else if startsWord ts "ON" then
      let ts := ts.drop 1
      if startsWord ts "DELETE" || startsWord ts "UPDATE" || startsWord ts "INSERT" then do
        let ((), ts) ← foreignAction (ts.drop 1)
        foreignActions k ts
      else .error (failAt ts)
    else .ok ((), ts)

def initially : Reader Unit := fun ts =>
  if startsWord ts "INITIALLY" then
    let ts := ts.drop 1
    if startsWord ts "DEFERRED" || startsWord ts "IMMEDIATE" then .ok ((), ts.drop 1) else .error (failAt ts)
  else .ok ((), ts)

def foreignTarget : Reader Unit := fun ts => do
  let (_, ts) ← name ts
  let (_, ts) ← if startsSymbol ts "(" then listedColumns ts else pure ([], ts)
  foreignActions (ts.length + 1) ts

def literalTerm : Reader Expr := fun ts =>
  match ts with
  | t :: rest =>
    match t.kind with
    | .integer => .ok (.integer t.value, rest)
    | .float => .ok (.lit (.real (readReal t.value.toList).1), rest)
    | .blob => .ok (.lit (.blob (blobOf t.value)), rest)
    | .string => .ok (.lit (.str t.value), rest)
    | .word =>
      let u := t.value.toUpper
      if u = "NULL" then .ok (.lit .null, rest)
      else if u = "CURRENT_TIME" then .ok (.now .time, rest)
      else if u = "CURRENT_DATE" then .ok (.now .date, rest)
      else if u = "CURRENT_TIMESTAMP" then .ok (.now .timestamp, rest)
      else .error (failAt ts)
    | _ => .error (failAt ts)
  | [] => .error .incomplete

/-- The value after `DEFAULT`: an expression in brackets, a literal with an
optional sign, or a bare name, which is text (unquoted `TRUE` and `FALSE`
are 1 and 0). -/
def defaultValue (n : Nat) : Reader Expr := fun ts =>
  match ts with
  | [] => .error .incomplete
  | t :: rest =>
    if t.isSymbol "(" then do
      let (e, ts) ← exprAt n 1 rest
      let ((), ts) ← symbol ")" ts
      pure (e, ts)
    else if t.isSymbol "+" then literalTerm rest
    else if t.isSymbol "-" then do
      let (e, ts) ← literalTerm rest
      pure (.unary .neg e, ts)
    else
      match t.kind with
      | .quotedId _ => .ok (.lit (.str t.value), rest)
      | .word =>
        let u := t.value.toUpper
        let moment := u = "CURRENT_TIME" || u = "CURRENT_DATE" || u = "CURRENT_TIMESTAMP"
        if !moment && (t.name? false false).isSome then
          if u = "TRUE" then .ok (.lit (.int 1), rest)
          else if u = "FALSE" then .ok (.lit (.int 0), rest)
          else .ok (.lit (.str t.value), rest)
        else literalTerm ts
      | _ => literalTerm ts

def checkCondition (n : Nat) (label : Option String) : Reader (String × Expr) := fun ts => do
  let ((), inner) ← symbol "(" ts
  let (e, after) ← exprAt n 1 inner
  match after with
  | t :: rest =>
    if t.isSymbol ")" then
      let used := inner.take (inner.length - after.length)
      let text := match used with
        | u :: _ => trimSpaces (u.gap ++ tokensText used ++ t.gap)
        | [] => ""
      .ok ((label.getD (dequote text), e), rest)
    else .error (failAt after)
  | [] => .error .incomplete

def generatedValue (n : Nat) (column : String) : Reader ColumnRule := fun ts => do
  let ((), ts) ← symbol "(" ts
  let (e, ts) ← exprAt n 1 ts
  let ((), ts) ← symbol ")" ts
  match ts with
  | t :: rest =>
    if t.kind = .word && (t.name? false false).isSome then
      if t.isWord "STORED" then pure (.generated e true, rest)
      else if t.isWord "VIRTUAL" then pure (.generated e false, rest)
      else throw (.logic ("error in generated column \"" ++ column ++ "\""))
    else pure (.generated e false, ts)
  | [] => pure (.generated e false, [])

def columnRules (n : Nat) (column : String) : Nat → Option String → Reader (List ColumnRule)
  | 0, _, _ => .error tooDeep
  | k + 1, label, ts =>
    let more := fun (r : Option ColumnRule) (ts : List Token) => do
      let (rest, ts) ← columnRules n column k label ts
      pure (r.toList ++ rest, ts)
    match ts with
    | [] => .ok ([], [])
    | t :: rest =>
      if t.isWord "CONSTRAINT" then do
        let (nm, ts) ← name rest
        columnRules n column k (some nm) ts
      else if t.isWord "DEFAULT" then do
        let (e, ts) ← defaultValue n rest
        more (some (.default e)) ts
      else if t.isWord "NULL" then do
        let (_, ts) ← onConflict rest
        more none ts
      else if t.isWord "NOT" then
        if startsWord rest "NULL" then do
          let (c, ts) ← onConflict (rest.drop 1)
          more (some (.notNull c)) ts
        else do
          let ((), ts) ← word "DEFERRABLE" rest
          let ((), ts) ← initially ts
          more none ts
      else if t.isWord "PRIMARY" then do
        let ((), ts) ← word "KEY" rest
        let (desc, ts) := direction ts
        let (c, ts) ← onConflict ts
        let (auto, ts) := skipWord "AUTOINCREMENT" ts
        more (some (.primary desc c auto)) ts
      else if t.isWord "UNIQUE" then do
        let (c, ts) ← onConflict rest
        more (some (.unique c)) ts
      else if t.isWord "CHECK" then do
        let ((nm, e), ts) ← checkCondition n label rest
        more (some (.check nm e)) ts
      else if t.isWord "REFERENCES" then do
        let ((), ts) ← foreignTarget rest
        more none ts
      else if t.isWord "DEFERRABLE" then do
        let ((), ts) ← initially rest
        more none ts
      else if t.isWord "COLLATE" then do
        let (c, ts) ← collationName rest
        more (some (.collate c)) ts
      else if t.isWord "GENERATED" then do
        let ((), ts) ← word "ALWAYS" rest
        let ((), ts) ← word "AS" ts
        let (g, ts) ← generatedValue n column ts
        more (some g) ts
      else if t.isWord "AS" then do
        let (g, ts) ← generatedValue n column rest
        more (some g) ts
      else .ok ([], ts)

def columnDef (n : Nat) : Reader ColumnDef := fun ts => do
  let left := ts.length
  let (nm, ts) ← name ts
  let (ty, ts) ← columnType ts
  let (rules, ts) ← columnRules n nm (ts.length + 1) none ts
  pure ({ name := nm, type := dequote (withoutGenerated ty), rules := rules, left := left }, ts)

def startsTableRule (ts : List Token) : Bool :=
  ["CONSTRAINT", "PRIMARY", "UNIQUE", "CHECK", "FOREIGN"].any (startsWord ts)

def tableRule (n : Nat) (label : Option String) : Reader (Option TableRule × Option String) := fun ts =>
  match ts with
  | [] => .error .incomplete
  | t :: rest =>
    if t.isWord "CONSTRAINT" then do
      let (nm, ts) ← name rest
      pure ((none, some nm), ts)
    else if t.isWord "PRIMARY" then do
      let ((), ts) ← word "KEY" rest
      let ((), ts) ← symbol "(" ts
      let (cols, ts) ← orderTerms n ts
      let (auto, ts) := skipWord "AUTOINCREMENT" ts
      let ((), ts) ← symbol ")" ts
      let (c, ts) ← onConflict ts
      pure ((some (.primary cols auto c), label), ts)
    else if t.isWord "UNIQUE" then do
      let ((), ts) ← symbol "(" rest
      let (cols, ts) ← orderTerms n ts
      let ((), ts) ← symbol ")" ts
      let (c, ts) ← onConflict ts
      pure ((some (.unique cols c), label), ts)
    else if t.isWord "CHECK" then do
      let ((nm, e), ts) ← checkCondition n label rest
      let (_, ts) ← onConflict ts
      pure ((some (.check nm e), label), ts)
    else if t.isWord "FOREIGN" then do
      let ((), ts) ← word "KEY" rest
      let (_, ts) ← listedColumns ts
      let ((), ts) ← word "REFERENCES" ts
      let ((), ts) ← foreignTarget ts
      let ts := if startsWord ts "NOT" && startsWord (ts.drop 1) "DEFERRABLE" then ts.drop 2
        else if startsWord ts "DEFERRABLE" then ts.drop 1 else ts
      let ((), ts) ← initially ts
      pure ((none, label), ts)
    else .error (failAt ts)

def tableRules (n : Nat) : Nat → Option String → Reader (List TableRule)
  | 0, _, _ => .error tooDeep
  | k + 1, label, ts => do
    let ((r, label), ts) ← tableRule n label ts
    if startsSymbol ts ")" then pure (r.toList, ts)
    else if startsSymbol ts "," then do
      let (rs, ts) ← tableRules n k none (ts.drop 1)
      pure (r.toList ++ rs, ts)
    else do
      let (rs, ts) ← tableRules n k label ts
      pure (r.toList ++ rs, ts)

def tableBody (n : Nat) : Nat → Reader (List ColumnDef × List TableRule × Nat)
  | 0, _ => .error tooDeep
  | k + 1, ts => do
    let (col, ts) ← columnDef n ts
    if startsSymbol ts "," then
      let rest := ts.drop 1
      if startsTableRule rest then do
        let (rules, r) ← tableRules n (rest.length + 1) none rest
        pure (([col], rules, ts.length), r)
      else do
        let ((cols, rules, addAt), r) ← tableBody n k rest
        pure ((col :: cols, rules, addAt), r)
    else pure (([col], [], ts.length), ts)

def tableOption : Reader Bool := fun ts =>
  match ts with
  | t :: rest =>
    if t.isWord "WITHOUT" then
      match rest with
      | u :: more =>
        if (u.name? true true).isSome then
          if u.raw.length = 5 && sameWord u.raw "rowid" then .ok (true, more)
          else .error (.logic ("unknown table option: " ++ u.raw))
        else .error (failAt rest)
      | [] => .error .incomplete
    else if (t.name? true true).isSome then
      if t.raw.length = 6 && sameWord t.raw "strict" then .ok (false, rest)
      else .error (.logic ("unknown table option: " ++ t.raw))
    else .error (failAt ts)
  | [] => .error .incomplete

def tableOptions : Nat → Reader (Bool × Bool)
  | 0, _ => .error tooDeep
  | k + 1, ts => do
    let (w, ts) ← tableOption ts
    let (rest, ts) ← if startsSymbol ts "," then tableOptions k (ts.drop 1) else pure ((false, false), ts)
    pure ((w || rest.1, !w || rest.2), ts)

def startsTableOption (ts : List Token) : Bool :=
  match ts with
  | t :: _ => t.isWord "WITHOUT" || (t.name? true true).isSome
  | [] => false

def closingGap (ts : List Token) : String :=
  match ts with
  | t :: _ => if t.isSymbol ";" then t.gap else ""
  | [] => ""

def createTable (n : Nat) (temp : Bool) : Reader Stmt := fun ts => do
  let (ine, ts) ← ifNotExists ts
  let ((tn, nameTok, fromName), ts) ← namedAt ts
  if startsWord ts "AS" then do
    let (q, ts) ← query n (ts.drop 1)
    pure (.createTableAs temp ine tn nameTok.raw q, ts)
  else do
    let ((), body) ← symbol "(" ts
    let ((cols, rules, addAt), ts) ← tableBody n (body.length + 1) body
    let ((), afterClose) ← symbol ")" ts
    let any := startsTableOption afterClose
    let ((withoutRowid, strict), ts) ← if any then tableOptions (afterClose.length + 1) afterClose
      else pure ((false, false), afterClose)
    let used := fromName.take (fromName.length - ts.length)
    let text := tokensText used ++ (if any then closingGap ts else "")
    let d : TableDef := { temp := temp, ifNotExists := ine, name := tn, written := nameTok.raw, columns := cols,
                          rules := rules, withoutRowid := withoutRowid, strict := strict,
                          sql := "CREATE TABLE " ++ text, addAt := addAt }
    pure (.createTable d, ts)

def createIndex (n : Nat) (unique : Bool) : Reader Stmt := fun ts => do
  let (ine, ts) ← ifNotExists ts
  let ((tn, _, fromName), ts) ← namedAt ts
  let ((), ts) ← word "ON" ts
  let (table, ts) ← name ts
  let ((), ts) ← symbol "(" ts
  let (cols, ts) ← orderTerms n ts
  let ((), ts) ← symbol ")" ts
  let (filter, ts) ← if startsWord ts "WHERE" then do
      let (e, ts) ← exprAt n 1 (ts.drop 1)
      pure (some e, ts)
    else pure (none, ts)
  let used := fromName.take (fromName.length - ts.length)
  let head := if unique then "CREATE UNIQUE INDEX " else "CREATE INDEX "
  pure (.createIndex unique ine tn table cols filter (head ++ tokensText used ++ closingGap ts), ts)

def createView (n : Nat) (temp : Bool) : Reader Stmt := fun ts => do
  let (ine, ts) ← ifNotExists ts
  let ((tn, nameTok, fromName), ts) ← namedAt ts
  let (cols, ts) ← if startsSymbol ts "(" then listedColumns ts else pure ([], ts)
  let ((), ts) ← word "AS" ts
  let (q, ts) ← query n ts
  let used := fromName.take (fromName.length - ts.length)
  let text := trimEndSpaces (tokensText used ++ closingGap ts)
  pure (.createView temp ine tn nameTok.raw cols q ("CREATE VIEW " ++ text), ts)

def createStatement (n : Nat) : Reader Stmt := fun ts =>
  let (temp, ts) := if startsWord ts "TEMP" || startsWord ts "TEMPORARY" then (true, ts.drop 1) else (false, ts)
  match ts with
  | t :: rest =>
    if t.isWord "TABLE" then createTable n temp rest
    else if t.isWord "VIEW" then createView n temp rest
    else if !temp && t.isWord "INDEX" then createIndex n false rest
    else if !temp && t.isWord "UNIQUE" then do
      let ((), ts) ← word "INDEX" rest
      createIndex n true ts
    else .error (failAt ts)
  | [] => .error .incomplete

def alterStatement (n : Nat) : Reader Stmt := fun ts => do
  let ((), ts) ← word "TABLE" ts
  let (tn, ts) ← fullName ts
  match ts with
  | t :: rest =>
    if t.isWord "RENAME" then
      if startsWord rest "TO" then do
        let (newName, ts) ← name (rest.drop 1)
        pure (.alter tn (.renameTable newName), ts)
      else do
        let rest := (skipWord "COLUMN" rest).2
        match rest with
        | o :: _ => do
          let (old, ts) ← name rest
          let ((), ts) ← word "TO" ts
          match ts with
          | u :: _ => do
            let (new, ts) ← name ts
            let quoted := match u.kind with
              | .word => false
              | _ => true
            pure (.alter tn (.renameColumn old new o.raw quoted), ts)
          | [] => .error .incomplete
        | [] => .error .incomplete
    else if t.isWord "ADD" then do
      let rest := (skipWord "COLUMN" rest).2
      let (c, ts) ← columnDef n rest
      let used := rest.take (rest.length - ts.length)
      pure (.alter tn (.addColumn c (tokensText used)), ts)
    else if t.isWord "DROP" then do
      let rest := (skipWord "COLUMN" rest).2
      match rest with
      | o :: _ => do
        let (col, ts) ← name rest
        pure (.alter tn (.dropColumn col o.raw), ts)
      | [] => .error .incomplete
    else .error (failAt ts)
  | [] => .error .incomplete

end Issuance.Sql
