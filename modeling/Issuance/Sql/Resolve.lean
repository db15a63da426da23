import Issuance.Sql.Function
import Issuance.Sql.Window.Named
import Issuance.Sql.JsonTable
/-! # Resolving names

A column name resolves innermost query first; two matching sources make it
ambiguous. An unfound name is text if double-quoted, else 1 or 0 for
`TRUE`/`FALSE`, else an error; `rowid` names the one rowid table. The last
error found is reported. -/
namespace Issuance.Sql

structure SourceNames where
  name : String
  database : Option String
  columns : List (String × Affinity)
  rowid : Bool
  qualifiedOnly : Bool := false
  joined : Option (JoinKind × List String) := none
  visible : Option Nat := none
  deriving Inhabited

inductive NamedQuery
  | defined (name : String) (columns : List String) (q : Query)
  | extending (name : String) (columns : List (String × Affinity))

def NamedQuery.name : NamedQuery → String
  | .defined n _ _ => n
  | .extending n _ => n

structure Level where
  sources : List SourceNames
  aliases : List (String × Expr) := []
  named : List NamedQuery := []
  inTrigger : Bool := false

abbrev Scope := List Level

def schemaColumns : List Column :=
  [("type", "text"), ("name", "text"), ("tbl_name", "text"), ("rootpage", "int"), ("sql", "text")].map
    fun (n, t) => { name := n, type := t }

def isSchemaTable (n : String) : Bool := sameName n "sqlite_master" || sameName n "sqlite_schema"

def isTempSchemaTable (n : String) : Bool := sameName n "sqlite_temp_master" || sameName n "sqlite_temp_schema"

/-- The database whose schema table a name reads: without a database the
main one (the temporary schema table the temporary one); a named database
its own. -/
def schemaTablePlace? (db : Database) (schema : Option String) (name : String) : Option Place :=
  match schema with
  | none => if isSchemaTable name then some .main else if isTempSchemaTable name then some .temp else none
  | some s =>
    match db.placeNamed? s with
    | some .temp => if isSchemaTable name || isTempSchemaTable name then some .temp else none
    | some p => if isSchemaTable name then some p else none
    | none => none

def tableColumns? (db : Database) (schema : Option String) (name : String) : Option (List Column × Bool) :=
  if (schemaTablePlace? db schema name).isSome then some (schemaColumns, true)
  else (db.findTable schema name).map fun t => (t.columns, !t.withoutRowid)

def columnNames (names : List String) : List String :=
  names.zipIdx.foldl (fun (acc : List String) (nm, i) =>
    let base := if nm.isEmpty || sameName nm "true" || sameName nm "false" then "column" ++ toString (i + 1) else nm
    let fresh := ((List.range (acc.length + 1)).map fun k => if k = 0 then base else base ++ ":" ++ toString k).find?
      fun c => !acc.any (sameName c)
    acc ++ [fresh.getD base]) []

def findNamed (scope : Scope) (name : String) : Option (Nat × NamedQuery) :=
  scope.zipIdx.findSome? fun (lvl, i) => (lvl.named.find? (sameName ·.name name)).map fun d => (i, d)

def namedScope (scope : Scope) (place : Nat) (name : String) : Scope :=
  match (scope.drop place).map (fun lvl => ({ sources := [], named := lvl.named } : Level)) with
  | lvl :: rest => { lvl with named := lvl.named.filter (!sameName ·.name name) } :: rest
  | [] => []

def Source.reads : Nat → Source → String → Bool
  | 0, _, _ => false
  | _ + 1, .table none t _, nm => sameName t nm
  | k + 1, .join a b _ _ _ _, nm => Source.reads k a nm || Source.reads k b nm
  | _ + 1, _, _ => false

def Query.reads (q : Query) (nm : String) : Bool :=
  match q with
  | .select _ _ (some src) _ _ _ _ => src.reads 64 nm
  | _ => false

def namedColumns (nm : String) (declared : List String) (cols : List (String × Affinity)) :
    Except Failure (List (String × Affinity)) :=
  if declared.isEmpty then .ok ((columnNames (cols.map (·.1))).zip (cols.map (·.2)))
  else if declared.length ≠ cols.length then
    .error (.logic ("table " ++ nm ++ " has " ++ toString cols.length ++ " values for " ++ toString declared.length ++
      " columns"))
  else .ok (declared.zip (cols.map (·.2)))

def viewColumns (v : View) (cols : List (String × Affinity)) : Except Failure (List (String × Affinity)) :=
  if v.columns.isEmpty then .ok ((columnNames (cols.map (·.1))).zip (cols.map (·.2)))
  else if v.columns.length ≠ cols.length then
    .error (.logic ("expected " ++ toString v.columns.length ++ " columns for '" ++ v.name ++ "' but got " ++
      toString cols.length))
  else .ok (v.columns.zip (cols.map (·.2)))

def TableName.text (t : TableName) : String :=
  match t.schema with
  | some s => s ++ "." ++ t.name
  | none => t.name

def partsText (parts : List String) : String := ".".intercalate parts

inductive Lookup
  | found (e : Expr)
  | ambiguous
  | missing

def hasColumn (ns : List SourceNames) (c : String) : Bool := ns.any fun s => s.columns.any (sameName ·.1 c)

def SourceNames.shares (s : SourceNames) (c : String) : Bool :=
  match s.joined with
  | some (_, shared) => shared.any (sameName · c)
  | none => false

def SourceNames.rightKept (s : SourceNames) : Bool :=
  match s.joined with
  | some (k, _) => k.keepsRight
  | none => false

def expandColumns (names : List SourceNames) (all : Bool) (s : SourceNames) (j : Nat) : List ResultColumn :=
  let later := names.drop (j + 1)
  (s.columns.take (s.visible.getD s.columns.length)).zipIdx.filterMap fun ((cn, a), k) =>
    if all && j > 0 && s.shares cn then none
    else if later.any SourceNames.rightKept && later.any (·.shares cn) then
      some (ResultColumn.expr (.name [cn] false false) (some cn) cn)
    else some (ResultColumn.expr (.bound j k a) (some cn) cn)

/-- The columns one reference names: a `USING` column is the leftmost, the
right one or the `coalesce` of all by the join; other repeats are
ambiguous. -/
def joinedMatches (col : String) (hits : List (SourceNames × Expr)) : Nat × Option Expr :=
  let step (acc : Nat × Option Expr × List Expr) (hit : SourceNames × Expr) : Nat × Option Expr × List Expr :=
    let (cnt, cur, full) := acc
    let (s, e) := hit
    if cnt = 0 then (1, some e, full) else
    match s.joined with
    | some (kind, _) =>
      if s.shares col then
        match kind with
        | .inner | .left => acc
        | .right => (1, some e, [])
        | .full => (cnt + 1, some e, full ++ cur.toList)
      else (cnt + 1, some e, [])
    | none => (cnt + 1, some e, [])
  let (cnt, cur, full) := hits.foldl step (0, none, [])
  if !full.isEmpty && full.length + 1 = cnt then (1, some (.call "coalesce" (full ++ cur.toList) false false))
  else (cnt, cur)

def findInLevel (offset : Nat) (lvl : Level) (parts : List String) : Lookup :=
  let (schema?, tbl?, col) : Option String × Option String × String := match parts with
    | [c] => (none, none, c)
    | [t, c] => (none, some t, c)
    | d :: t :: c :: _ => (some d, some t, c)
    | [] => (none, none, "")
  let candidates := lvl.sources.zipIdx.filter fun (s, _) =>
    match tbl? with
    | none => !s.qualifiedOnly
    | some t => sameName s.name t &&
      (match schema? with
        | none => true
        | some d => (s.database.map (sameName d)).getD false)
  let hits := candidates.filterMap fun (s, j) =>
    (s.columns.findIdx? (sameName ·.1 col)).map fun c =>
      (s, Expr.bound (offset + j) c (((s.columns[c]?).map (·.2)).getD .none))
  match joinedMatches col hits with
  | (1, some e) => .found e
  | (0, _) =>
    if isRowidName col then
      match candidates.filter (·.1.rowid) with
      | [(s, j)] => .found (.bound (offset + j) s.columns.length .integer)
      | _ :: _ :: _ => .ambiguous
      | [] => .missing
    else .missing
  | _ => .ambiguous

def lookupName : Scope → Nat → List String → Lookup
  | [], _, _ => .missing
  | lvl :: rest, offset, parts =>
    match findInLevel offset lvl parts with
    | .missing =>
      let alias? := match parts with
        | [n] => if offset = 0 then (lvl.aliases.find? (sameName ·.1 n)).map (·.2) else none
        | _ => none
      match alias? with
      | some e => .found e
      | none => lookupName rest (offset + lvl.sources.length) parts
    | r => r

def laterError (a b : Option Failure) : Option Failure :=
  match b with
  | some _ => b
  | none => a

def integerValue (text : String) (negated : Bool) : Option Value :=
  let cs := text.toList
  match cs with
  | '0' :: x :: hex =>
    if x = 'x' || x = 'X' then
      let ds := (hex.dropWhile (· = '0'))
      if ds.length > 16 then none
      else
        let u := ds.foldl (fun (acc : Nat) c => acc * 16 + (if c.isDigit then c.toNat - 48
          else (foldAscii c).toNat - 87)) 0
        let v := wrap (u : Int)
        if negated && v = minInt then none
        else some (.int (if negated then -v else v))
    else decimal cs
  | _ => decimal cs
where
  decimal (cs : List Char) : Option Value :=
    let (v, code) := readInt cs
    if (code = 3 && !negated) || code = 2 then
      let r := (readReal cs).1
      some (.real (if negated then r.negate else r))
    else some (.int (if negated then (if code = 3 then minInt else -v) else v))

/-- Whether an expression holds an aggregate call outside any subquery,
looking `depth` levels down. A window call is no aggregate, but what it
reads may hold one. -/
def Expr.aggregateWithin : Nat → Expr → Bool
  | 0, _ => false
  | n + 1, e =>
    let any := fun (xs : List Expr) => xs.any (Expr.aggregateWithin n)
    match e with
    | .aggregate .. => true
    | .unary _ a | .isNull a _ | .cast a _ | .collate a _ | .field a _ | .truth a _ _ | .inQuery a _ _
    | .inTable a _ _ => any [a]
    | .binary _ a b => any [a, b]
    | .inList a items _ => any (a :: items)
    | .between a lo hi _ => any [a, lo, hi]
    | .pattern _ a p esc _ => any ([a, p] ++ esc.toList)
    | .call _ args _ _ | .vector args => any args
    | .applied _ _ args _ _ filter overClause => any (args ++ clauseTerms filter overClause)
    | .case base arms other => any (base.toList ++ arms.flatMap (fun (c, v) => [c, v]) ++ other.toList)
    | _ => false

def exprDepth : Nat := 2048

def Expr.hasAggregate (e : Expr) : Bool := e.aggregateWithin exprDepth

/-- The failure of a literal that cannot be compiled: a hex literal of more
than sixteen digits, or the least integer written in hex with a minus sign
before it. -/
def literalFault? : Expr → Option Failure
  | .integer t => if (integerValue t false).isNone then some (.logic ("hex literal too big: " ++ t)) else none
  | .unary .neg (.integer t) =>
    if (integerValue t true).isNone then some (.logic ("hex literal too big: -" ++ t)) else none
  | _ => none

def distinctFault (f : String) (args : List Expr) (distinct : Bool) : List Failure :=
  if distinct && args.length ≠ 1 && CallKind.of f args.length = .aggregate then
    [.logic "DISTINCT aggregates must have exactly one argument"]
  else []

mutual

def exprFaults : Nat → Expr → List Failure
  | 0, _ => []
  | n + 1, e =>
    match literalFault? e with
    | some t => [t]
    | none =>
      match e with
      | .unary _ a | .isNull a _ | .cast a _ | .collate a _ | .field a _ | .truth a _ _ | .inTable a _ _ =>
        exprFaults n a
      | .binary _ a b => exprFaults n a ++ exprFaults n b
      | .inList a items _ => exprFaults n a ++ items.flatMap (exprFaults n)
      | .inQuery a q _ => exprFaults n a ++ queryFaults n q
      | .between a lo hi _ => exprFaults n a ++ exprFaults n lo ++ exprFaults n hi
      | .pattern _ a p esc _ => exprFaults n a ++ exprFaults n p ++ (esc.map (exprFaults n)).getD []
      | .call f args distinct _ | .aggregate f args distinct _ none =>
        distinctFault f args distinct ++ args.flatMap (exprFaults n)
      | .aggregate f args distinct _ (some c) =>
        distinctFault f args distinct ++ args.flatMap (exprFaults n) ++ exprFaults n c
      | .applied _ _ args _ _ filter overClause => (args ++ clauseTerms filter overClause).flatMap (exprFaults n)
      | .vector args => args.flatMap (exprFaults n)
      | .case base arms other =>
        (base.map (exprFaults n)).getD [] ++ arms.flatMap (fun (c, v) => exprFaults n c ++ exprFaults n v) ++
          (other.map (exprFaults n)).getD []
      | .exists q | .subquery q => queryFaults n q
      | _ => []

def queryFaults : Nat → Query → List Failure
  | 0, _ => []
  | n + 1, q =>
    match q with
    | .select _ cols src filter groups having _ =>
      cols.flatMap (columnFaults n) ++ (src.map (sourceFaults n)).getD [] ++ (filter.map (exprFaults n)).getD [] ++
        groups.flatMap (exprFaults n) ++ (having.map (exprFaults n)).getD []
    | .values rows => rows.flatMap (·.flatMap (exprFaults n))
    | .compound _ a b | .recursive a b _ => queryFaults n a ++ queryFaults n b
    | .defining defs body => defs.flatMap (fun (_, _, q) => queryFaults n q) ++ queryFaults n body
    | .ordered q terms limit offset =>
      queryFaults n q ++ terms.flatMap (fun (e, _) => exprFaults n e) ++ (limit.map (exprFaults n)).getD [] ++
        (offset.map (exprFaults n)).getD []

def columnFaults : Nat → ResultColumn → List Failure
  | 0, _ => []
  | n + 1, .expr e _ _ => exprFaults n e
  | _ + 1, _ => []

def sourceFaults : Nat → Source → List Failure
  | 0, _ => []
  | n + 1, .query q _ => queryFaults n q
  | n + 1, .join a b _ _ on _ => sourceFaults n a ++ sourceFaults n b ++ (on.map (exprFaults n)).getD []
  | n + 1, .function name args _ =>
    args.flatMap (exprFaults n) ++
      (if args.length > 2 && isJsonTable name then
        [.logic ("too many arguments on " ++ name ++ "() - max 2")]
      else [])
  | _ + 1, .table .. | _ + 1, .pending _ => []

end

structure Resolving where
  db : Database
  allowAgg : Bool
  allowWin : Bool := false
  windows : List (String × Window) := []

def ordinal (n : Nat) : String :=
  let suffix :=
    if n % 100 ≥ 11 && n % 100 ≤ 13 then "th"
    else match n % 10 with
      | 1 => "st"
      | 2 => "nd"
      | 3 => "rd"
      | _ => "th"
  toString n ++ suffix

structure Resolved where
  query : Query
  columns : List (String × Affinity)

def termInteger? : Expr → Option Int
  | .integer t => match integerValue t false with
    | some (.int i) => some i
    | _ => none
  | .unary .neg (.integer t) => match integerValue t true with
    | some (.int i) => some i
    | _ => none
  | .unary .pos e => termInteger? e
  | _ => none

/-- The name a result column goes by: its alias; for a column of one of its
query's own sources, the column's declared name; else the text it was
written as. -/
def resultName (names : List SourceNames) : ResultColumn → Expr → String
  | .expr _ (some a) _, _ => a
  | .expr (.name parts _ _) none _, .bound j k _ =>
    match names[j]? with
    | some s => ((s.columns[k]?).map (·.1)).getD ((parts.getLast?).getD "")
    | none => (parts.getLast?).getD ""
  | .expr (.name parts _ _) none _, _ => (parts.getLast?).getD ""
  | .expr _ none text, _ => text
  | _, _ => ""

def Expr.affinity : Expr → Affinity
  | .bound _ _ a => a
  | .cast _ t => Affinity.ofType t
  | .collate e _ => e.affinity
  | _ => .none

mutual

def resolveExpr : Nat → Resolving → Scope → Option Failure → Expr → Expr × Option Failure
  | 0, _, _, err, e => (e, laterError err (some (.logic "Expression tree is too large")))
  | n + 1, rs, scope, err, e =>
    let go := fun (err : Option Failure) (x : Expr) => resolveExpr n rs scope err x
    let goAll := fun (err : Option Failure) (xs : List Expr) =>
      xs.foldl (fun (acc : List Expr × Option Failure) x =>
        let (y, err') := go acc.2 x
        (acc.1 ++ [y], err')) ([], err)
    match e with
    | .integer t =>
      match integerValue t false with
      | some v => (.lit v, err)
      | none => (e, err)
    | .name parts quoted dq =>
      match lookupName scope 0 parts with
      | .found x => (x, err)
      | .ambiguous => (.lit .null, some (.logic ("ambiguous column name: " ++ partsText parts)))
      | .missing =>
        match parts with
        | [c] =>
          if dq then (.lit (.str c), err)
          else if !quoted && sameName c "true" then (.lit (.int 1), err)
          else if !quoted && sameName c "false" then (.lit (.int 0), err)
          else (.lit .null, some (.noColumn c))
        | _ => (.lit .null, some (.noColumn (partsText parts)))
    | .unary .neg (.integer t) =>
      match integerValue t true with
      | some v => (.lit v, err)
      | none => (e, err)
    | .unary op a =>
      if err.isSome then (e, err) else
      let (a', err) := go err a
      (.unary op a', err)
    | .binary op a b =>
      let truthOf? : Option Bool := match op, b with
        | .is, .name [c] false _ | .isNot, .name [c] false _ =>
          match lookupName scope 0 [c] with
          | .missing => if sameName c "true" then some true else if sameName c "false" then some false else none
          | _ => none
        | _, _ => none
      match truthOf? with
      | some wanted =>
        if err.isSome then (e, err) else
        let (a', err) := go err a
        (.truth a' wanted (op = .isNot), err)
      | none =>
        if err.isSome then (e, err) else
        let (a', err) := go err a
        let (b', err) := go err b
        (.binary op a' b', err)
    | .isNull a neg =>
      if err.isSome then (e, err) else
      let (a', err) := go err a
      (.isNull a' neg, err)
    | .inList a items neg =>
      if err.isSome then (e, err) else
      let (a', err) := go err a
      let (items', err) := goAll err items
      (.inList a' items' neg, err)
    | .inQuery a q neg =>
      let (q', err) := resolveSub n rs scope err q 1
      if err.isSome then (.inQuery a q' neg, err) else
      let (a', err) := go err a
      (.inQuery a' q' neg, err)
    | .inTable a tbl neg =>
      let (schema, name) := match tbl with
        | [s, t] => (some s, t)
        | t :: _ => (none, t)
        | [] => (none, "")
      let q : Query := .select false [.all] (some (.table schema name none)) none [] none []
      let (q', err) := resolveSub n rs scope err q 1
      if err.isSome then (.inQuery a q' neg, err) else
      let (a', err) := go err a
      (.inQuery a' q' neg, err)
    | .between a lo hi neg =>
      if err.isSome then (e, err) else
      let (a', err) := go err a
      let (lo', err) := go err lo
      let (hi', err) := go err hi
      (.between a' lo' hi' neg, err)
    | .pattern op a pat esc neg =>
      let err := match op with
        | .regexp => laterError err (some (.noFunction "REGEXP"))
        | .match => laterError err (some (.noFunction "MATCH"))
        | _ => err
      let (pat', err) := go err pat
      let (a', err) := go err a
      match esc with
      | some x =>
        let (x', err) := go err x
        (.pattern op a' pat' (some x') neg, err)
      | none => (.pattern op a' pat' none neg, err)
    | .call f args distinct star =>
      let count := args.length
      if isWindowFunction f then
        let (args', err) := goAll (laterError err (some (.logic ("misuse of window function " ++ f ++ "()")))) args
        (.call f args' distinct star, err)
      else
      match CallKind.of f count with
      | .unknown | .window =>
        let (args', err) := goAll (laterError err (some (.noFunction f))) args
        (.call f args' distinct star, err)
      | .wrongCount =>
        let (args', err) := goAll (laterError err (some (.argumentCount f))) args
        (.call f args' distinct star, err)
      | .aggregate =>
        if !rs.allowAgg then
          let (args', err) := goAll (laterError err (some (.misuse f))) args
          (.call f args' distinct star, err)
        else
          let (args', err) := args.foldl (fun (acc : List Expr × Option Failure) x =>
            let (y, err') := resolveExpr n { rs with allowAgg := false, allowWin := false } scope acc.2 x
            (acc.1 ++ [y], err')) ([], err)
          (.aggregate f args' distinct star none, err)
      | .scalar =>
        let err := if sameName f "likelihood" then
            match (args[1]? : Option Expr) with
            | some (.lit (.real r)) =>
              if r.isNegative || r.exceedsOne then
                laterError err (some (.logic ("second argument to " ++ f ++ "() must be a constant between 0.0 and 1.0")))
              else err
            | _ => laterError err (some (.logic ("second argument to " ++ f ++ "() must be a constant between 0.0 and 1.0")))
          else err
        let (args', err) := goAll err args
        (.call f args' distinct star, err)
    | .applied k f args distinct star filter overClause =>
      let kind := CallKind.of f args.length
      let isWin := isWindowFunction f
      let aggLike := kind = .aggregate || kind = .window || (kind = .wrongCount && (isWin || isAggregateOnly f))
      let fault : Option Failure :=
        if kind ≠ .unknown && !aggLike && overClause.isSome then
          some (.logic (f ++ "() may not be used as a window function"))
        else if aggLike && ((overClause.isNone && (!rs.allowAgg || isWin)) || (overClause.isSome && !rs.allowWin)) then
          some (.logic ("misuse of " ++ (if isWin || overClause.isSome then "window" else "aggregate") ++ " function " ++
            f ++ "()"))
        else if kind = .unknown then some (.noFunction f)
        else if kind = .wrongCount then some (.argumentCount f)
        else if !aggLike then some (.logic ("FILTER may not be used with non-aggregate " ++ f ++ "()"))
        else none
      match fault, overClause with
      | some failure, _ =>
        let (args', err) := goAll (laterError err (some failure)) args
        (.call f args' distinct star, err)
      | none, none =>
        let inner : Resolving := { rs with allowAgg := false, allowWin := false }
        let (args', err) := args.foldl (fun (acc : List Expr × Option Failure) x =>
          let (y, err') := resolveExpr n inner scope acc.2 x
          (acc.1 ++ [y], err')) ([], err)
        let (filter', err) := match filter with
          | some c => let (c', err) := resolveExpr n inner scope err c; (some c', err)
          | none => (none, err)
        (.aggregate f args' distinct star filter', err)
      | none, some w =>
        let inner : Resolving := { rs with allowWin := false }
        let goIn := fun (err : Option Failure) (x : Expr) => resolveExpr n inner scope err x
        let goInAll := fun (err : Option Failure) (xs : List Expr) =>
          xs.foldl (fun (acc : List Expr × Option Failure) x =>
            let (y, err') := goIn acc.2 x
            (acc.1 ++ [y], err')) ([], err)
        let (args', err) := goInAll err args
        let plain : Expr := .call f args' distinct star
        match w.complete rs.windows with
        | .error failure => (plain, laterError err (some failure))
        | .ok (.named _) => (plain, err)
        | .ok (.spec _ partition orderBy frame) =>
          let frame := frame.getD defaultFrame
          let ranged := match frame with
            | .mk .range s e _ => s.offset?.isSome || e.offset?.isSome
            | _ => false
          let key := String.ofList (f.toList.map foldAscii)
          if ranged && orderBy.length ≠ 1 then
            (plain, laterError err (some (.logic "RANGE with offset PRECEDING/FOLLOWING requires one ORDER BY expression")))
          else if isWin && filter.isSome then
            (plain, laterError err (some (.logic "FILTER clause may only be used with aggregate window functions")))
          else
            let frame := if isWin && !(["first_value", "last_value", "nth_value"].contains key) then defaultFrame
              else frame
            let (partition', err) := goInAll err partition
            let (orderKeys, err) := goInAll err (orderBy.map (·.1))
            let (frame', err) := match frame with
              | .mk u s e x =>
                let (s', err) := match s.offset? with
                  | some o => let (o', err) := goIn err o; (s.mapOffset (fun _ => o'), err)
                  | none => (s, err)
                let (e', err) := match e.offset? with
                  | some o => let (o', err) := goIn err o; (e.mapOffset (fun _ => o'), err)
                  | none => (e, err)
                (Frame.mk u s' e' x, err)
            let (filter', err) := match filter with
              | some c => let (c', err) := goIn err c; (some c', err)
              | none => (none, err)
            let orderBy' := orderKeys.zip (orderBy.map (·.2))
            (.applied k f args' distinct star filter' (some (.spec none partition' orderBy' (some frame'))), err)
    | .cast a t =>
      if err.isSome then (e, err) else
      let (a', err) := go err a
      (.cast a' t, err)
    | .case base arms other =>
      if err.isSome then (e, err) else
      let (base', err) := match base with
        | some b => let (b', err) := go err b; (some b', err)
        | none => (none, err)
      let (arms', err) := arms.foldl (fun (acc : List (Expr × Expr) × Option Failure) (c, v) =>
        let (c', err') := go acc.2 c
        let (v', err'') := go err' v
        (acc.1 ++ [(c', v')], err'')) ([], err)
      let (other', err) := match other with
        | some o => let (o', err) := go err o; (some o', err)
        | none => (none, err)
      (.case base' arms' other', err)
    | .collate a c =>
      if err.isSome then (e, err) else
      let (a', err) := go err a
      let err := if ["BINARY", "NOCASE", "RTRIM"].any (sameName c) then err
        else laterError err (some (.logic ("no such collation sequence: " ++ c)))
      (.collate a' c, err)
    | .exists q =>
      let (q', err) := resolveSub n rs scope err q 0
      (.exists q', err)
    | .subquery q =>
      let (q', err) := resolveSub n rs scope err q 1
      (.subquery q', err)
    | .vector items =>
      if err.isSome then (e, err) else
      let (items', err) := goAll err items
      (.vector items', err)
    | .field a i =>
      if err.isSome then (e, err) else
      let (a', err) := go err a
      (.field a' i, err)
    | .raise _ _ =>
      if scope.any (·.inTrigger) then (e, err)
      else (e, laterError err (some (.logic "RAISE() may only be used within a trigger-program")))
    | _ => (e, err)

def resolveSub : Nat → Resolving → Scope → Option Failure → Query → Nat → Query × Option Failure
  | 0, _, _, err, q, _ => (q, laterError err (some (.logic "Expression tree is too large")))
  | n + 1, rs, scope, err, q, width =>
    if err.isSome then (q, err) else
    match resolveQuery n rs.db scope q with
    | .error f => (q, some f)
    | .ok r =>
      if width > 0 && r.columns.length ≠ width then
        (r.query, some (.logic ("sub-select returns " ++ toString r.columns.length ++ " columns - expected " ++
          toString width)))
      else (r.query, err)

def resolveQuery : Nat → Database → Scope → Query → Except Failure Resolved
  | 0, _, _, _ => .error (.logic "Expression tree is too large")
  | n + 1, db, outer, q =>
    match q with
    | .ordered inner terms limit offset => do
      let limitRs : Resolving := { db := db, allowAgg := false }
      let (limit', e1) := match limit with
        | some l => let (l', e) := resolveExpr n limitRs [] none l; (some l', e)
        | none => (none, none)
      let (offset', e2) := match offset with
        | some o => let (o', e) := resolveExpr n limitRs [] none o; (some o', e)
        | none => (none, none)
      if let some f := laterError e1 e2 then throw f
      match inner with
      | .select distinct cols src filter groups having windows => do
        let (r, lvl, isAgg) ← resolveSelect n db outer distinct cols src filter groups having windows
        let cols' := match r.query with
          | .select _ cs _ _ _ _ _ => cs
          | _ => []
        let exprs := cols'.filterMap fun c => match c with
          | .expr e _ _ => some e
          | _ => none
        let terms' ← terms.zipIdx.mapM fun ((t, desc), i) => do
          let named? : Option Expr := match t with
            | .name [c] _ _ => ((lvl.aliases.find? (sameName ·.1 c)).map (·.2))
            | _ => none
          match named? with
          | some x => pure (x, desc)
          | none =>
            match termInteger? t with
            | some k =>
              if k < 1 || k > exprs.length then
                throw (.logic (ordinal (i + 1) ++ " ORDER BY term out of range - should be between 1 and " ++
                  toString exprs.length))
              else pure (exprs.getD (k.toNat - 1) (.lit .null), desc)
            | none =>
              let (t', err) := resolveExpr n { db := db, allowAgg := isAgg, allowWin := true, windows := windows } (lvl :: outer) none t
              match err with
              | some f => throw f
              | none => pure (t', desc)
        pure { r with query := .ordered r.query terms' limit' offset' }
      | _ => do
        let r ← resolveQuery n db outer inner
        let terms' ← terms.zipIdx.mapM fun ((t, desc), i) => do
          let byName? : Option Nat := match t with
            | .name [c] _ _ => r.columns.findIdx? (sameName ·.1 c)
            | _ => none
          match byName? with
          | some k => pure (Expr.bound 0 k ((r.columns[k]?.map (·.2)).getD .none), desc)
          | none =>
            match termInteger? t with
            | some k =>
              if k < 1 || k > r.columns.length then
                throw (.logic (ordinal (i + 1) ++ " ORDER BY term out of range - should be between 1 and " ++
                  toString r.columns.length))
              else pure (Expr.bound 0 (k.toNat - 1) ((r.columns[k.toNat - 1]?.map (·.2)).getD .none), desc)
            | none =>
              throw (.logic (ordinal (i + 1) ++ " ORDER BY term does not match any column in the result set"))
        pure { r with query := .ordered r.query terms' limit' offset' }
    | .select distinct cols src filter groups having windows => do
      let (r, _, _) ← resolveSelect n db outer distinct cols src filter groups having windows
      pure r
    | .values rows => do
      let width := (rows.head?.map List.length).getD 0
      if rows.any (·.length ≠ width) then throw (.logic "all VALUES must have the same number of terms")
      let rows' ← rows.reverse.mapM fun row => do
        let (row', err) := row.foldl (fun (acc : List Expr × Option Failure) x =>
          if acc.2.isSome then (acc.1 ++ [x], acc.2) else
          let (y, err') := resolveExpr n { db := db, allowAgg := false } ({ sources := [] } :: outer) none x
          (acc.1 ++ [y], err')) ([], none)
        match err with
        | some f => throw f
        | none => pure row'
      let cols := (List.range width).map fun i => ("column" ++ toString (i + 1), Affinity.none)
      pure ⟨.values rows'.reverse, cols⟩
    | .defining defs body =>
      let lvl : Level := { sources := [], named := defs.map fun (nm, cols, q) => .defined nm cols q }
      resolveQuery n db (lvl :: outer) body
    | .recursive anchor step distinct => do
      let ra ← resolveQuery n db outer anchor
      let rb ← resolveQuery n db outer step
      pure ⟨.recursive ra.query rb.query distinct, ra.columns⟩
    | .compound op a b => do
      let rb ← resolveQuery n db outer b
      let ra ← resolveQuery n db outer a
      if ra.columns.length ≠ rb.columns.length then
        let name := match op with
          | .union => "UNION"
          | .unionAll => "UNION ALL"
          | .intersect => "INTERSECT"
          | .except => "EXCEPT"
        throw (.logic ("SELECTs to the left and right of " ++ name ++ " do not have the same number of result columns"))
      pure ⟨.compound op ra.query rb.query, ra.columns⟩

def resolveJoins : Nat → Resolving → Scope → Nat → Option Failure → Source → Source × Option Failure
  | 0, _, _, _, err, s => (s, err)
  | n + 1, rs, scope, offset, err, s =>
    match s with
    | .join a b kind natural on shared =>
      let (a', err) := resolveJoins n rs scope offset err a
      let mid := offset + a.width
      let (b', err) := resolveJoins n rs scope mid err b
      let names := (scope.head?.map (·.sources)).getD []
      let column (lo hi : Nat) (c : String) : Option Expr :=
        ((names.zipIdx.drop lo).take (hi - lo)).findSome? fun (s, j) =>
          (s.columns.findIdx? (sameName ·.1 c)).map fun k => Expr.bound j k (((s.columns[k]?).map (·.2)).getD .none)
      let equal := shared.filterMap fun c =>
        match column offset mid c, column mid (mid + b.width) c with
        | some l, some r => some (Expr.binary .eq l r)
        | _, _ => none
      let (on', err) := match on with
        | some e => let (e', err) := resolveExpr n rs scope err e; (some e', err)
        | none => (none, err)
      let cond := (equal ++ on'.toList).foldl (fun acc e => some ((acc.map (Expr.binary .and · e)).getD e)) none
      (.join a' b' kind natural cond shared, err)
    | .function name args asName =>
      let (args', err) := args.foldl (fun (acc : List Expr × Option Failure) x =>
        let (y, err') := resolveExpr n rs scope acc.2 x
        (acc.1 ++ [y], err')) ([], err)
      (.function name args' asName, err)
    | s => (s, err)

def resolveSelect : Nat → Database → Scope → Bool → List ResultColumn → Option Source → Option Expr →
    List Expr → Option Expr → List (String × Window) → Except Failure (Resolved × Level × Bool)
  | 0, _, _, _, _, _, _, _, _, _ => .error (.logic "Expression tree is too large")
  | n + 1, db, outer, distinct, cols, src, filter, groups, having, windows => do
    let (src', names) ← match src with
      | some s => do
        let (s', ns) ← resolveSource n db outer s
        pure (some s', ns)
      | none => pure (none, [])
    let expanded ← cols.foldlM (fun (acc : List ResultColumn) c =>
      match c with
      | .all =>
        if names.isEmpty then throw (.logic "no tables specified")
        else pure (acc ++ (names.zipIdx.flatMap fun (s, j) => expandColumns names true s j))
      | .allOf t =>
        match names.zipIdx.find? (sameName ·.1.name t) with
        | some (s, j) => pure (acc ++ expandColumns names false s j)
        | none => throw (.noTable t)
      | c => pure (acc ++ [c])) []
    let lvl0 : Level := { sources := names }
    let scope := lvl0 :: outer
    let resolved ← expanded.foldlM (fun (acc : List ResultColumn) c =>
      match c with
      | .expr e a text =>
        let (e', err) := resolveExpr n { db := db, allowAgg := true, allowWin := true, windows := windows } scope none e
        match err with
        | some f => throw f
        | none => pure (acc ++ [ResultColumn.expr e' a text])
      | c => pure (acc ++ [c])) []
    let exprs := resolved.filterMap fun c => match c with
      | .expr e _ _ => some e
      | _ => none
    let isAgg := !groups.isEmpty || exprs.any Expr.hasAggregate
    let aliases := resolved.filterMap fun c => match c with
      | .expr e (some a) _ => some (a, e)
      | _ => none
    let lvl : Level := { sources := names, aliases := aliases }
    let scope := lvl :: outer
    let having' ← match having with
      | some h =>
        if !isAgg then throw (.logic "HAVING clause on a non-aggregate query") else
        let (h', err) := resolveExpr n { db := db, allowAgg := true } scope none h
        match err with
        | some f => throw f
        | none => pure (some h')
      | none => pure none
    let (filter', err) := match filter with
      | some w => let (w', err) := resolveExpr n { db := db, allowAgg := false } scope none w; (some w', err)
      | none => (none, none)
    let (src', err) := match src' with
      | some s => let (s', err) := resolveJoins n { db := db, allowAgg := false } scope 0 err s; (some s', err)
      | none => (none, err)
    if let some f := err then throw f
    let groups' ← groups.zipIdx.mapM fun (g, i) => do
      match termInteger? g with
      | some k =>
        if k < 1 || k > exprs.length then
          throw (.logic (ordinal (i + 1) ++ " GROUP BY term out of range - should be between 1 and " ++
            toString exprs.length))
        else pure (exprs.getD (k.toNat - 1) (.lit .null))
      | none =>
        let (g', err) := resolveExpr n { db := db, allowAgg := true } scope none g
        match err with
        | some f => throw f
        | none =>
          if g'.hasAggregate then throw (.logic "aggregate functions are not allowed in the GROUP BY clause")
          else pure g'
    let columns := (expanded.zip resolved).map fun (c, r) => match r with
      | .expr e _ _ => (resultName names c e, e.affinity)
      | _ => ("", Affinity.none)
    pure (⟨.select distinct resolved src' filter' groups' having' [], columns⟩, lvl, isAgg)

def resolveSource : Nat → Database → Scope → Source → Except Failure (Source × List SourceNames)
  | 0, _, _, _ => .error (.logic "Expression tree is too large")
  | n + 1, db, outer, s =>
    match s with
    | .table schema name asName =>
      let shown := match asName with
        | some a => a
        | none => name
      match (if schema.isNone then findNamed outer name else none) with
      | some (_, .extending _ cols) => .ok (.pending (some shown), [⟨shown, none, cols, false, false, none, none⟩])
      | some (place, .defined nm declared q) => resolveNamed n db (namedScope outer place nm) nm declared q shown
      | none =>
        match tableColumns? db schema name with
        | some (cols, rowid) =>
          let place := (schemaTablePlace? db schema name).getD ((db.findTable schema name).map (·.place) |>.getD .main)
          .ok (s, [⟨shown, some place.name, cols.map fun c => (c.name, c.affinity), rowid, false, none, none⟩])
        | none =>
          match db.findView schema name with
          | some v => do
            let r ← resolveQuery n db [] v.query
            let cols ← viewColumns v r.columns
            pure (.query r.query (some shown), [⟨shown, some v.place.name, cols, false, false, none, none⟩])
          | none => .error (.noTable (TableName.text ⟨schema, name⟩))
    | .query q asName => do
      let r ← resolveQuery n db outer q
      pure (.query r.query asName, [⟨asName.getD "", none, r.columns, false, false, none, none⟩])
    | .pending asName => .ok (.pending asName, [⟨asName.getD "", none, [], false, false, none, none⟩])
    | .function name args asName =>
      let shown := asName.getD name
      if isJsonTable name then
        .ok (.function name args asName,
          [{ name := shown, database := some "main", columns := jsonTableColumns.map (·, Affinity.none), rowid := true,
             visible := some 8 }])
      else if (tableColumns? db none name).isSome then .error (.logic ("'" ++ name ++ "' is not a function"))
      else .error (.noTable name)
    | .join a b kind natural on shared => do
      let (a', na) ← resolveSource n db outer a
      let (b', nb) ← resolveSource n db outer b
      if natural && (on.isSome || !shared.isEmpty) then
        throw (.logic "a NATURAL join may not have an ON or USING clause")
      let common := if natural then ((nb.flatMap (·.columns)).map (·.1)).filter (hasColumn na) else shared
      for c in common do
        if !(hasColumn na c && hasColumn nb c) then
          throw (.logic ("cannot join using column " ++ c ++ " - column not present in both tables"))
      let nb' := nb.map fun s => if s.joined.isNone then { s with joined := some (kind, common) } else s
      pure (.join a' b' kind false on common, na ++ nb')

/-- Resolve a named query read as a source: a union whose last part reads
it is recursive, that part resolved as a step from one row; else read as
is. -/
def resolveNamed : Nat → Database → Scope → String → List String → Query → String →
    Except Failure (Source × List SourceNames)
  | 0, _, _, _, _, _, _ => .error (.logic "Expression tree is too large")
  | n + 1, db, scope, nm, declared, q, shown => do
    let (core, limit, offset) := match q with
      | .ordered inner [] limit offset => (inner, limit, offset)
      | q => (q, none, none)
    let readPlain : Except Failure (Source × List SourceNames) := do
      let r ← resolveQuery n db scope q
      let cols ← namedColumns nm declared r.columns
      pure (.query r.query (some shown), [⟨shown, none, cols, false, false, none, none⟩])
    match core with
    | .compound op a b =>
      if (op = .union || op = .unionAll) && b.reads nm then do
        let ra ← resolveQuery n db scope a
        let cols ← namedColumns nm declared ra.columns
        let stepScope : Scope := match scope with
          | lvl :: rest => { lvl with named := .extending nm cols :: lvl.named } :: rest
          | [] => [{ sources := [], named := [.extending nm cols] }]
        let rb ← resolveQuery n db stepScope b
        if ra.columns.length ≠ rb.columns.length then
          throw (.logic ("SELECTs to the left and right of " ++ (if op = .union then "UNION" else "UNION ALL") ++
            " do not have the same number of result columns"))
        let limitRs : Resolving := { db := db, allowAgg := false }
        let (limit', e1) := match limit with
          | some l => let (l', e) := resolveExpr n limitRs [] none l; (some l', e)
          | none => (none, none)
        let (offset', e2) := match offset with
          | some o => let (o', e) := resolveExpr n limitRs [] none o; (some o', e)
          | none => (none, none)
        if let some f := laterError e1 e2 then throw f
        let rec' := Query.recursive ra.query rb.query (op = .union)
        let whole := if limit'.isNone && offset'.isNone then rec' else .ordered rec' [] limit' offset'
        pure (.query whole (some shown), [⟨shown, none, cols, false, false, none, none⟩])
      else readPlain
    | _ => readPlain

end

end Issuance.Sql
