import Issuance.Sql.Lex
import Issuance.Sql.Window.Named
/-! # Reading statements

Recursive descent with the database's operator precedence, loosest `OR`
first; reading stops at the first token that cannot continue. Fuel is
bounded by the token count. -/
namespace Issuance.Sql

def reservedWords : List String :=
  ["ADD", "ALL", "ALTER", "AND", "AS", "AUTOINCREMENT", "BETWEEN", "CASE", "CHECK", "COLLATE", "COMMIT",
    "CONSTRAINT", "CREATE", "DEFAULT", "DEFERRABLE", "DELETE", "DISTINCT", "DROP", "ELSE", "ESCAPE", "EXCEPT",
    "EXISTS", "FOREIGN", "FROM", "GROUP", "HAVING", "IN", "INDEX", "INSERT", "INTERSECT", "INTO", "IS",
    "ISNULL", "JOIN", "LIMIT", "NOT", "NOTHING", "NOTNULL", "NULL", "ON", "OR", "ORDER", "PRIMARY",
    "REFERENCES", "RETURNING", "SELECT", "SET", "TABLE", "THEN", "TO", "TRANSACTION", "UNION", "UNIQUE",
    "UPDATE", "USING", "VALUES", "WHEN", "WHERE"]

def joinWords : List String := ["CROSS", "FULL", "INNER", "LEFT", "NATURAL", "OUTER", "RIGHT"]

abbrev Reader (α : Type) := List Token → Except Failure (α × List Token)

def failAt : List Token → Failure
  | [] => .incomplete
  | t :: _ => if t.kind = .illegal then .unrecognized t.raw else .near t.raw

def tooDeep : Failure := .logic "parser stack overflow"

def Token.isWord (t : Token) (w : String) : Bool := t.kind = .word && t.value.toUpper = w

def Token.isSymbol (t : Token) (s : String) : Bool := t.kind = .symbol && t.value = s

def startsWord (ts : List Token) (w : String) : Bool := (ts.head?.map (·.isWord w)).getD false

def startsSymbol (ts : List Token) (s : String) : Bool := (ts.head?.map (·.isSymbol s)).getD false

def word (w : String) : Reader Unit := fun ts =>
  match ts with
  | t :: rest => if t.isWord w then .ok ((), rest) else .error (failAt ts)
  | [] => .error .incomplete

def symbol (s : String) : Reader Unit := fun ts =>
  match ts with
  | t :: rest => if t.isSymbol s then .ok ((), rest) else .error (failAt ts)
  | [] => .error .incomplete

def skipWord (w : String) (ts : List Token) : Bool × List Token :=
  if startsWord ts w then (true, ts.drop 1) else (false, ts)

/-- The name a token gives where the grammar takes a name: a quoted name, a
word it does not keep, text when `strings`, and a join word when `joins`. -/
def Token.name? (t : Token) (strings joins : Bool) : Option String :=
  match t.kind with
  | .quotedId _ => some t.value
  | .word =>
    let u := t.value.toUpper
    if reservedWords.contains u then none
    else if joinWords.contains u && !joins then none
    else some t.value
  | .string => if strings then some t.value else none
  | _ => none

def name : Reader String := fun ts =>
  match ts with
  | t :: rest => match t.name? true true with
    | some n => .ok (n, rest)
    | none => .error (failAt ts)
  | [] => .error .incomplete

def startsWindowClause (ts : List Token) : Bool :=
  match ts with
  | w :: nm :: a :: _ => w.isWord "WINDOW" && (nm.name? true true).isSome && a.isWord "AS"
  | _ => false

def bareAlias (ts : List Token) : Option String × List Token :=
  match ts with
  | t :: rest =>
    if t.isWord "INDEXED" || startsWindowClause ts then (none, ts) else
    match t.name? true false with
    | some n => (some n, rest)
    | none => (none, ts)
  | [] => (none, ts)

def aliasClause : Reader (Option String) := fun ts =>
  if startsWord ts "AS" then do
    let (n, ts) ← name (ts.drop 1)
    pure (some n, ts)
  else .ok (bareAlias ts)

def commaSep (item : Reader α) : Nat → Reader (List α)
  | 0, _ => .error tooDeep
  | k + 1, ts => do
    let (x, ts) ← item ts
    if startsSymbol ts "," then
      let (xs, ts) ← commaSep item k (ts.drop 1)
      pure (x :: xs, ts)
    else pure ([x], ts)

def nameList : Reader (List String) := fun ts => do
  let ((), ts) ← symbol "(" ts
  let (ns, ts) ← commaSep name (ts.length + 1) ts
  let ((), ts) ← symbol ")" ts
  pure (ns, ts)

def infixOf (t : Token) : Option (BinOp × Nat) :=
  if t.isWord "OR" then some (.or, 1)
  else if t.isWord "AND" then some (.and, 2)
  else if t.kind ≠ .symbol then none
  else match t.value with
    | "=" | "==" => some (.eq, 4)
    | "!=" | "<>" => some (.ne, 4)
    | "<" => some (.lt, 5)
    | "<=" => some (.le, 5)
    | ">" => some (.gt, 5)
    | ">=" => some (.ge, 5)
    | "&" => some (.bitAnd, 7)
    | "|" => some (.bitOr, 7)
    | "<<" => some (.shl, 7)
    | ">>" => some (.shr, 7)
    | "+" => some (.add, 8)
    | "-" => some (.sub, 8)
    | "*" => some (.mul, 9)
    | "/" => some (.div, 9)
    | "%" => some (.rem, 9)
    | "||" => some (.concat, 10)
    | "->" => some (.extract false, 10)
    | "->>" => some (.extract true, 10)
    | _ => none

def patternOf (t : Token) : Option PatternOp :=
  if t.isWord "LIKE" then some .like
  else if t.isWord "GLOB" then some .glob
  else if t.isWord "REGEXP" then some .regexp
  else if t.isWord "MATCH" then some .match
  else none

def startsSpecial (t : Token) : Bool :=
  ["IS", "IN", "BETWEEN", "ISNULL", "NOTNULL", "NOT"].any t.isWord || (patternOf t).isSome

def startsQuery (ts : List Token) : Bool := startsWord ts "SELECT" || startsWord ts "VALUES" || startsWord ts "WITH"

def typeName : Reader String := fun ts =>
  let ws := ts.takeWhile fun t => (t.name? true false).isSome
  if ws.isEmpty then .error (failAt ts) else
  let ts := ts.drop ws.length
  let text := " ".intercalate (ws.map (·.value))
  if startsSymbol ts "(" then
    let inner := (ts.drop 1).takeWhile fun t => !t.isSymbol ")"
    let ts' := ts.drop (inner.length + 1)
    let ok := inner.all fun t => t.kind = .integer || t.kind = .float || t.isSymbol "," ||
      t.isSymbol "+" || t.isSymbol "-"
    if !ok then .error (failAt ((ts.drop 1).dropWhile fun t => t.kind = .integer || t.kind = .float ||
      t.isSymbol "," || t.isSymbol "+" || t.isSymbol "-"))
    else match ts' with
      | t :: rest => if t.isSymbol ")" then .ok (text, rest) else .error (failAt ts')
      | [] => .error .incomplete
  else .ok (text, ts)

def blobOf (digits : String) : Bytes := (Text.ofHex digits).toOption.getD []

def indexedBy : Reader Unit := fun ts =>
  if startsWord ts "INDEXED" then do
    let ((), ts) ← word "BY" (ts.drop 1)
    let (_, ts) ← name ts
    pure ((), ts)
  else if startsWord ts "NOT" && startsWord (ts.drop 1) "INDEXED" then .ok ((), ts.drop 2)
  else .ok ((), ts)

def Expr.isZeroLiteral : Expr → Bool
  | .integer text =>
    let digits := match text.toList with
      | '0' :: x :: hex => if x = 'x' || x = 'X' then hex else '0' :: x :: hex
      | cs => cs
    digits.all (· = '0')
  | _ => false

def joinOperands (op : BinOp) (a b : Expr) : Expr :=
  match op with
  | .and => if a.isZeroLiteral || b.isZeroLiteral then .integer "0" else .binary op a b
  | _ => .binary op a b

def Expr.writtenConstant : Nat → Expr → Bool
  | 0, _ => false
  | n + 1, e =>
    let all := fun (xs : List Expr) => xs.all (Expr.writtenConstant n)
    match e with
    | .lit _ | .integer _ | .var _ => true
    | .name [c] false _ => c.toUpper = "TRUE" || c.toUpper = "FALSE"
    | .unary _ a | .isNull a _ | .cast a _ | .collate a _ => all [a]
    | .binary _ a b => all [a, b]
    | .between a lo hi _ => all [a, lo, hi]
    | .inList a items _ => all (a :: items)
    | .pattern _ a p esc _ => all ([a, p] ++ esc.toList)
    | .vector items => all items
    | .case base arms other => all (base.toList ++ arms.flatMap (fun (c, v) => [c, v]) ++ other.toList)
    | _ => false

def Frame.unsupported : Frame → Bool
  | .mk _ .currentRow (.preceding _) _ => true
  | .mk _ (.following _) (.preceding _) _ => true
  | .mk _ (.following _) .currentRow _ => true
  | _ => false

def joinType (words : List Token) : Option (JoinKind × Bool) :=
  let us := words.map fun t => t.raw.toUpper
  let has (w : String) := us.contains w
  let left := has "LEFT" || has "FULL"
  let right := has "RIGHT" || has "FULL"
  let outer := left || right || has "OUTER"
  if !(us.all fun u => joinWords.contains u) || ((has "INNER" || has "CROSS") && outer) ||
      (outer && !left && !right) then none
  else
    let kind := if left && right then JoinKind.full else if left then .left else if right then .right else .inner
    some (kind, has "NATURAL")

def joinOperator (ts : List Token) : Except Failure (Option ((JoinKind × Bool) × List Token)) :=
  let isName (t : Token) := (t.name? true true).isSome
  let named (words : List Token) (rest : List Token) : Except Failure (Option ((JoinKind × Bool) × List Token)) :=
    match joinType words with
    | some k => .ok (some (k, rest))
    | none => .error (.logic ("unknown join type: " ++ " ".intercalate (words.map (·.raw))))
  if startsSymbol ts "," then .ok (some ((.inner, false), ts.drop 1))
  else if startsWord ts "JOIN" then .ok (some ((.inner, false), ts.drop 1))
  else match ts with
    | t :: rest =>
      if t.kind = .word && joinWords.contains t.value.toUpper then
        match rest with
        | j :: rest1 =>
          if j.isWord "JOIN" then named [t] rest1
          else if !isName j then .error (failAt rest)
          else match rest1 with
            | k :: rest2 =>
              if k.isWord "JOIN" then named [t, j] rest2
              else if !isName k then .error (failAt rest1)
              else match rest2 with
                | l :: rest3 => if l.isWord "JOIN" then named [t, j, k] rest3 else .error (failAt rest2)
                | [] => .error .incomplete
            | [] => .error .incomplete
        | [] => .error .incomplete
      else .ok none
    | [] => .ok none

mutual

def exprAt : Nat → Nat → Reader Expr
  | 0, _, _ => .error tooDeep
  | n + 1, min, ts => do
    let (lhs, ts) ← operand n ts
    climb n min lhs ts

def climb : Nat → Nat → Expr → Reader Expr
  | 0, _, _, _ => .error tooDeep
  | n + 1, min, lhs, ts =>
    match ts with
    | [] => .ok (lhs, [])
    | t :: rest =>
      match infixOf t with
      | some (op, p) =>
        if p < min then .ok (lhs, ts) else do
          let (rhs, ts) ← exprAt n (p + 1) rest
          climb n min (joinOperands op lhs rhs) ts
      | none =>
        if t.isWord "COLLATE" then
          if 11 < min then .ok (lhs, ts) else
          match rest with
          | c :: rest' =>
            match c.name? true false with
            | some coll => climb n min (.collate lhs coll) rest'
            | none => .error (failAt rest)
          | [] => .error .incomplete
        else if startsSpecial t then
          if 4 < min then .ok (lhs, ts) else do
            let (e, ts) ← special n lhs ts
            climb n min e ts
        else .ok (lhs, ts)

def special : Nat → Expr → Reader Expr
  | 0, _, _ => .error tooDeep
  | n + 1, lhs, ts =>
    match ts with
    | [] => .error .incomplete
    | t :: rest =>
      if t.isWord "ISNULL" then .ok (.isNull lhs false, rest)
      else if t.isWord "NOTNULL" then .ok (.isNull lhs true, rest)
      else if t.isWord "IS" then do
        let (negated, rest) := skipWord "NOT" rest
        let (distinct, rest) := skipWord "DISTINCT" rest
        let ((), rest) ← if distinct then word "FROM" rest else pure ((), rest)
        let (rhs, rest) ← exprAt n 5 rest
        pure (.binary (if negated != distinct then .isNot else .is) lhs rhs, rest)
      else
        let (negated, rest) := if t.isWord "NOT" then (true, rest) else (false, ts)
        match rest with
        | [] => .error .incomplete
        | u :: rest' =>
          if negated && u.isWord "NULL" then .ok (.isNull lhs true, rest')
          else if u.isWord "BETWEEN" then do
            let (lo, ts) ← exprAt n 4 rest'
            let ((), ts) ← word "AND" ts
            let (hi, ts) ← exprAt n 5 ts
            pure (.between lhs lo hi negated, ts)
          else if u.isWord "IN" then membership n lhs negated rest'
          else match patternOf u with
            | some op => do
              let (pat, ts) ← exprAt n 5 rest'
              if startsWord ts "ESCAPE" then
                let (esc, ts) ← exprAt n 5 (ts.drop 1)
                pure (.pattern op lhs pat (some esc) negated, ts)
              else pure (.pattern op lhs pat none negated, ts)
            | none => .error (failAt rest)

def membership : Nat → Expr → Bool → Reader Expr
  | 0, _, _, _ => .error tooDeep
  | n + 1, lhs, negated, ts =>
    if startsSymbol ts "(" then
      let inner := ts.drop 1
      if startsSymbol inner ")" then .ok (.inList lhs [] negated, inner.drop 1)
      else if startsQuery inner then do
        let (q, ts) ← query n inner
        let ((), ts) ← symbol ")" ts
        pure (.inQuery lhs q negated, ts)
      else do
        let (items, ts) ← exprList n inner
        let ((), ts) ← symbol ")" ts
        pure (.inList lhs items negated, ts)
    else do
      let (first, ts) ← name ts
      let (parts, ts) ← if startsSymbol ts "." then do
          let (second, ts) ← name (ts.drop 1)
          pure ([first, second], ts)
        else pure ([first], ts)
      if startsSymbol ts "(" then
        let inner := ts.drop 1
        if startsSymbol inner ")" then .ok (.inTable lhs parts negated, inner.drop 1) else do
          let (_, ts) ← exprList n inner
          let ((), ts) ← symbol ")" ts
          pure (.inTable lhs parts negated, ts)
      else pure (.inTable lhs parts negated, ts)

def exprList : Nat → Reader (List Expr)
  | 0, _ => .error tooDeep
  | n + 1, ts => do
    let (e, ts) ← exprAt n 1 ts
    if startsSymbol ts "," then
      let (es, ts) ← exprList n (ts.drop 1)
      pure (e :: es, ts)
    else pure ([e], ts)

def operand : Nat → Reader Expr
  | 0, _ => .error tooDeep
  | n + 1, ts =>
    match ts with
    | [] => .error .incomplete
    | t :: rest =>
      if t.isSymbol "-" then do let (e, r) ← operand n rest; pure (.unary .neg e, r)
      else if t.isSymbol "+" then do let (e, r) ← operand n rest; pure (.unary .pos e, r)
      else if t.isSymbol "~" then do let (e, r) ← operand n rest; pure (.unary .bitNot e, r)
      else if t.isWord "NOT" then do let (e, r) ← exprAt n 4 rest; pure (.unary .not e, r)
      else primary n ts

def primary : Nat → Reader Expr
  | 0, _ => .error tooDeep
  | n + 1, ts =>
    match ts with
    | [] => .error .incomplete
    | t :: rest =>
      match t.kind with
      | .integer => .ok (.integer t.value, rest)
      | .float => .ok (.lit (.real (readReal t.value.toList).1), rest)
      | .blob => .ok (.lit (.blob (blobOf t.value)), rest)
      | .variable => .ok (.var t.raw, rest)
      | .string =>
        if startsSymbol rest "." then qualified n t.value rest
        else .ok (.lit (.str t.value), rest)
      | .quotedId dq => named n t.value true dq rest
      | .symbol =>
        if t.value = "(" then
          if startsQuery rest then do
            let (q, ts) ← query n rest
            let ((), ts) ← symbol ")" ts
            pure (.subquery q, ts)
          else do
            let (items, ts) ← exprList n rest
            let ((), ts) ← symbol ")" ts
            match items with
            | [e] => pure (e, ts)
            | es => pure (.vector es, ts)
        else .error (failAt ts)
      | .illegal => .error (failAt ts)
      | .word =>
        let u := t.value.toUpper
        if u = "NULL" then .ok (.lit .null, rest)
        else if u = "CURRENT_TIME" then .ok (.now .time, rest)
        else if u = "CURRENT_DATE" then .ok (.now .date, rest)
        else if u = "CURRENT_TIMESTAMP" then .ok (.now .timestamp, rest)
        else if u = "CAST" then do
          let ((), ts) ← symbol "(" rest
          let (e, ts) ← exprAt n 1 ts
          let ((), ts) ← word "AS" ts
          let (ty, ts) ← typeName ts
          let ((), ts) ← symbol ")" ts
          pure (.cast e ty, ts)
        else if u = "CASE" then caseExpr n rest
        else if u = "EXISTS" then do
          let ((), ts) ← symbol "(" rest
          let (q, ts) ← query n ts
          let ((), ts) ← symbol ")" ts
          pure (.exists q, ts)
        else if u = "RAISE" then do
          let ((), ts) ← symbol "(" rest
          match ts with
          | k :: ts =>
            if k.isWord "IGNORE" then do
              let ((), ts) ← symbol ")" ts
              pure (.raise "IGNORE" "", ts)
            else if k.isWord "ROLLBACK" || k.isWord "ABORT" || k.isWord "FAIL" then do
              let ((), ts) ← symbol "," ts
              let (message, ts) ← name ts
              let ((), ts) ← symbol ")" ts
              pure (.raise k.value.toUpper message, ts)
            else .error (failAt (k :: ts))
          | [] => .error .incomplete
        else if reservedWords.contains u then .error (failAt ts)
        else named n t.value false false rest

/-- A name in an expression, after its first token: a call when a bracket
follows (join words name no function), a qualified name when a point does. -/
def named : Nat → String → Bool → Bool → Reader Expr
  | 0, _, _, _, _ => .error tooDeep
  | n + 1, first, quoted, dq, rest =>
    if startsSymbol rest "(" && !(!quoted && joinWords.contains first.toUpper) then
      call n first (rest.drop 1)
    else if startsSymbol rest "." then qualified n first rest
    else .ok (.name [first] quoted dq, rest)

def qualified : Nat → String → Reader Expr
  | 0, _, _ => .error tooDeep
  | _ + 1, first, ts => do
    let ((), ts) ← symbol "." ts
    let (second, ts) ← name ts
    if startsSymbol ts "." then
      let (third, ts) ← name (ts.drop 1)
      pure (.name [first, second, third] false false, ts)
    else pure (.name [first, second] false false, ts)

def call : Nat → String → Reader Expr
  | 0, _, _ => .error tooDeep
  | n + 1, f, ts => do
    let id := ts.length
    let ((args, distinct, star), ts) ← if startsSymbol ts ")" then pure (([], false, false), ts.drop 1)
      else if startsSymbol ts "*" then do
        let ((), ts) ← symbol ")" (ts.drop 1)
        pure (([], false, true), ts)
      else do
        let (distinct, ts) := skipWord "DISTINCT" ts
        let ts := if distinct then ts else (skipWord "ALL" ts).2
        let (args, ts) ← exprList n ts
        let ((), ts) ← symbol ")" ts
        pure ((args, distinct, false), ts)
    let ((filter, overClause), ts) ← callClauses n ts
    if filter.isNone && overClause.isNone then pure (.call f args distinct star, ts)
    else if distinct && overClause.isSome then .error (.logic "DISTINCT is not supported for window functions")
    else pure (.applied id f args distinct star filter overClause, ts)

def callClauses : Nat → Reader (Option Expr × Option Window)
  | 0, _ => .error tooDeep
  | n + 1, ts => do
    let (filter, ts) ← if startsWord ts "FILTER" && startsSymbol (ts.drop 1) "(" then do
        let ((), ts) ← word "WHERE" (ts.drop 2)
        let (e, ts) ← exprAt n 1 ts
        let ((), ts) ← symbol ")" ts
        pure (some e, ts)
      else pure (none, ts)
    match ts with
    | o :: t :: rest =>
      if !o.isWord "OVER" then pure ((filter, none), ts)
      else if t.isSymbol "(" then do
        let (w, ts) ← windowSpec n rest
        let ((), ts) ← symbol ")" ts
        pure ((filter, some w), ts)
      else match t.name? true true with
        | some nm => pure ((filter, some (.named nm)), rest)
        | none => pure ((filter, none), ts)
    | _ => pure ((filter, none), ts)

def windowSpec : Nat → Reader Window
  | 0, _ => .error tooDeep
  | n + 1, ts => do
    let (base, ts) := match ts with
      | t :: rest =>
        if ["PARTITION", "ORDER", "RANGE", "ROWS", "GROUPS"].any t.isWord then (none, ts)
        else match t.name? true true with
          | some nm => (some nm, rest)
          | none => (none, ts)
      | [] => (none, ts)
    let (partition, ts) ← if startsWord ts "PARTITION" then do
        let ((), ts) ← word "BY" (ts.drop 1)
        exprList n ts
      else pure ([], ts)
    let (orderBy, ts) ← if startsWord ts "ORDER" then do
        let ((), ts) ← word "BY" (ts.drop 1)
        orderTerms n ts
      else pure ([], ts)
    let (frame, ts) ← frameSpec n ts
    pure (.spec base partition orderBy frame, ts)

def frameSpec : Nat → Reader (Option Frame)
  | 0, _ => .error tooDeep
  | n + 1, ts =>
    let unit? : Option FrameUnit := match ts with
      | t :: _ =>
        if t.isWord "ROWS" then some .rows else if t.isWord "RANGE" then some .range
        else if t.isWord "GROUPS" then some .groups else none
      | [] => none
    match unit? with
    | none => .ok (none, ts)
    | some unit => do
      let ts := ts.drop 1
      let (start, finish, ts) ← if startsWord ts "BETWEEN" then do
          let (s, ts) ← frameBound n true (ts.drop 1)
          let ((), ts) ← word "AND" ts
          let (e, ts) ← frameBound n false ts
          pure (s, e, ts)
        else do
          let (s, ts) ← frameBound n true ts
          pure (s, FrameBound.currentRow, ts)
      let (exclude, ts) ← if startsWord ts "EXCLUDE" then
          match ts.drop 1 with
          | a :: rest =>
            if a.isWord "NO" then do
              let ((), ts) ← word "OTHERS" rest
              pure (FrameExclude.noOthers, ts)
            else if a.isWord "CURRENT" then do
              let ((), ts) ← word "ROW" rest
              pure (FrameExclude.currentRow, ts)
            else if a.isWord "GROUP" then pure (FrameExclude.group, rest)
            else if a.isWord "TIES" then pure (FrameExclude.ties, rest)
            else .error (failAt (ts.drop 1))
          | [] => .error .incomplete
        else pure (FrameExclude.noOthers, ts)
      let frame := Frame.mk unit start finish exclude
      if frame.unsupported then .error (.logic "unsupported frame specification")
      else pure (some frame, ts)

def frameBound : Nat → Bool → Reader FrameBound
  | 0, _, _ => .error tooDeep
  | n + 1, isStart, ts =>
    if startsWord ts "UNBOUNDED" then
      let rest := ts.drop 1
      if isStart then do
        let ((), ts) ← word "PRECEDING" rest
        pure (.unboundedPreceding, ts)
      else do
        let ((), ts) ← word "FOLLOWING" rest
        pure (.unboundedFollowing, ts)
    else if startsWord ts "CURRENT" then do
      let ((), ts) ← word "ROW" (ts.drop 1)
      pure (.currentRow, ts)
    else do
      let (e, ts) ← exprAt n 1 ts
      let e := if e.writtenConstant 64 then e else .lit .null
      if startsWord ts "PRECEDING" then pure (.preceding e, ts.drop 1)
      else if startsWord ts "FOLLOWING" then pure (.following e, ts.drop 1)
      else .error (failAt ts)

def windowDefs : Nat → List (String × Window) → Reader (List (String × Window))
  | 0, _, _ => .error tooDeep
  | n + 1, done, ts => do
    let (nm, ts) ← name ts
    let ((), ts) ← word "AS" ts
    let ((), ts) ← symbol "(" ts
    let (w, ts) ← windowSpec n ts
    let ((), ts) ← symbol ")" ts
    let w ← w.complete done
    let done := done ++ [(nm, w)]
    if startsSymbol ts "," then windowDefs n done (ts.drop 1) else pure (done, ts)


def caseExpr : Nat → Reader Expr
  | 0, _ => .error tooDeep
  | n + 1, ts => do
    let (base, ts) ← if startsWord ts "WHEN" then pure (none, ts) else do
      let (e, ts) ← exprAt n 1 ts
      pure (some e, ts)
    let (arms, ts) ← whenArms n ts
    let (otherwise, ts) ← if startsWord ts "ELSE" then do
        let (e, ts) ← exprAt n 1 (ts.drop 1)
        pure (some e, ts)
      else pure (none, ts)
    let ((), ts) ← word "END" ts
    pure (.case base arms otherwise, ts)

def whenArms : Nat → Reader (List (Expr × Expr))
  | 0, _ => .error tooDeep
  | n + 1, ts => do
    let ((), ts) ← word "WHEN" ts
    let (c, ts) ← exprAt n 1 ts
    let ((), ts) ← word "THEN" ts
    let (v, ts) ← exprAt n 1 ts
    if startsWord ts "WHEN" then
      let (more, ts) ← whenArms n ts
      pure ((c, v) :: more, ts)
    else pure ([(c, v)], ts)

def query : Nat → Reader Query
  | 0, _ => .error tooDeep
  | n + 1, ts => do
    if startsWord ts "WITH" then
      let (defs, ts) ← namedQueries n (skipWord "RECURSIVE" (ts.drop 1)).2
      let (body, ts) ← query n ts
      return (.defining defs body, ts)
    let (first, ts) ← simpleQuery n ts
    let (q, ts) ← compounds n first ts
    let (order, ts) ← if startsWord ts "ORDER" then do
        let ((), ts) ← word "BY" (ts.drop 1)
        orderTerms n ts
      else pure ([], ts)
    let (limit, offset, ts) ← if startsWord ts "LIMIT" then do
        let (l, ts) ← exprAt n 1 (ts.drop 1)
        if startsWord ts "OFFSET" then do
          let (o, ts) ← exprAt n 1 (ts.drop 1)
          pure (some l, some o, ts)
        else if startsSymbol ts "," then do
          let (l2, ts) ← exprAt n 1 (ts.drop 1)
          pure (some l2, some l, ts)
        else pure (some l, none, ts)
      else pure (none, none, ts)
    if order.isEmpty && limit.isNone then pure (q, ts) else pure (.ordered q order limit offset, ts)

def namedQueries : Nat → Reader (List (String × List String × Query))
  | 0, _ => .error tooDeep
  | n + 1, ts => do
    let (nm, ts) ← name ts
    let (cols, ts) ← if startsSymbol ts "(" then nameList ts else pure ([], ts)
    let ((), ts) ← word "AS" ts
    let ts := (skipWord "NOT" ts).2
    let ts := (skipWord "MATERIALIZED" ts).2
    let ((), ts) ← symbol "(" ts
    let (q, ts) ← query n ts
    let ((), ts) ← symbol ")" ts
    if startsSymbol ts "," then
      let (more, ts) ← namedQueries n (ts.drop 1)
      pure ((nm, cols, q) :: more, ts)
    else pure ([(nm, cols, q)], ts)

def compounds : Nat → Query → Reader Query
  | 0, _, _ => .error tooDeep
  | n + 1, acc, ts =>
    let op? : Option (CompoundOp × List Token) :=
      if startsWord ts "UNION" then
        if startsWord (ts.drop 1) "ALL" then some (.unionAll, ts.drop 2) else some (.union, ts.drop 1)
      else if startsWord ts "INTERSECT" then some (.intersect, ts.drop 1)
      else if startsWord ts "EXCEPT" then some (.except, ts.drop 1)
      else none
    match op? with
    | none => .ok (acc, ts)
    | some (op, ts) => do
      let (q, ts) ← simpleQuery n ts
      compounds n (.compound op acc q) ts

def orderTerms : Nat → Reader (List (Expr × Bool))
  | 0, _ => .error tooDeep
  | n + 1, ts => do
    let (e, ts) ← exprAt n 1 ts
    let (desc, ts) :=
      if startsWord ts "DESC" then (true, ts.drop 1)
      else if startsWord ts "ASC" then (false, ts.drop 1) else (false, ts)
    let ((), ts) ← if startsWord ts "NULLS" then
        match ts.drop 1 with
        | t :: rest => if t.isWord "FIRST" || t.isWord "LAST" then pure ((), rest) else .error (failAt (ts.drop 1))
        | [] => .error .incomplete
      else pure ((), ts)
    if startsSymbol ts "," then
      let (more, ts) ← orderTerms n (ts.drop 1)
      pure ((e, desc) :: more, ts)
    else pure ([(e, desc)], ts)

def simpleQuery : Nat → Reader Query
  | 0, _ => .error tooDeep
  | n + 1, ts =>
    match ts with
    | t :: rest =>
      if t.isWord "VALUES" then do
        let (rows, ts) ← valueRows n rest
        pure (.values rows, ts)
      else if t.isWord "SELECT" then do
        let (distinct, ts) := skipWord "DISTINCT" rest
        let ts := if distinct then ts else (skipWord "ALL" ts).2
        let (cols, ts) ← resultColumns n ts
        let (src, ts) ← if startsWord ts "FROM" then do
            let (s, ts) ← sources n (ts.drop 1)
            pure (some s, ts)
          else pure (none, ts)
        let (filter, ts) ← if startsWord ts "WHERE" then do
            let (e, ts) ← exprAt n 1 (ts.drop 1)
            pure (some e, ts)
          else pure (none, ts)
        let (groups, ts) ← if startsWord ts "GROUP" then do
            let ((), ts) ← word "BY" (ts.drop 1)
            exprList n ts
          else pure ([], ts)
        let (having, ts) ← if startsWord ts "HAVING" then do
            let (e, ts) ← exprAt n 1 (ts.drop 1)
            pure (some e, ts)
          else pure (none, ts)
        let (windows, ts) ← if startsWindowClause ts then windowDefs n [] (ts.drop 1) else pure ([], ts)
        pure (.select distinct cols src filter groups having windows, ts)
      else .error (failAt ts)
    | [] => .error .incomplete

def valueRows : Nat → Reader (List (List Expr))
  | 0, _ => .error tooDeep
  | n + 1, ts => do
    let ((), ts) ← symbol "(" ts
    let (row, ts) ← exprList n ts
    let ((), ts) ← symbol ")" ts
    if startsSymbol ts "," then
      let (more, ts) ← valueRows n (ts.drop 1)
      pure (row :: more, ts)
    else pure ([row], ts)

def resultColumns : Nat → Reader (List ResultColumn)
  | 0, _ => .error tooDeep
  | n + 1, ts => do
    let (col, ts) ← match ts with
      | t :: rest =>
        if t.isSymbol "*" then pure (ResultColumn.all, rest)
        else match t.name? true true, rest with
          | some tbl, d :: s :: rest' =>
            if d.isSymbol "." && s.isSymbol "*" then pure (.allOf tbl, rest') else resultExpr n ts
          | _, _ => resultExpr n ts
      | [] => .error .incomplete
    if startsSymbol ts "," then
      let (more, ts) ← resultColumns n (ts.drop 1)
      pure (col :: more, ts)
    else pure ([col], ts)

def resultExpr : Nat → Reader ResultColumn
  | 0, _ => .error tooDeep
  | n + 1, ts => do
    let (e, rest) ← exprAt n 1 ts
    let (a, after) ← aliasClause rest
    pure (.expr e a (tokensText (ts.take (ts.length - rest.length))), after)

def sources : Nat → Reader Source
  | 0, _ => .error tooDeep
  | n + 1, ts => do
    let (first, ts) ← source n ts
    joins n first ts

def joins : Nat → Source → Reader Source
  | 0, _, _ => .error tooDeep
  | n + 1, acc, ts => do
    match ← joinOperator ts with
    | none => .ok (acc, ts)
    | some ((kind, natural), ts) =>
      let (next, ts) ← source n ts
      let (on, shared, ts) ← if startsWord ts "ON" then do
          let (e, ts) ← exprAt n 1 (ts.drop 1)
          pure (some e, [], ts)
        else if startsWord ts "USING" then do
          let (ns, ts) ← nameList (ts.drop 1)
          pure (none, ns, ts)
        else pure (none, [], ts)
      joins n (.join acc next kind natural on shared) ts

def source : Nat → Reader Source
  | 0, _ => .error tooDeep
  | n + 1, ts =>
    if startsSymbol ts "(" then
      let inner := ts.drop 1
      if startsQuery inner then do
        let (q, ts) ← query n inner
        let ((), ts) ← symbol ")" ts
        let (a, ts) ← aliasClause ts
        pure (.query q a, ts)
      else do
        let (s, ts) ← sources n inner
        let ((), ts) ← symbol ")" ts
        let (_, ts) ← aliasClause ts
        pure (s, ts)
    else do
      let (first, ts) ← name ts
      let (schema, tbl, ts) ← if startsSymbol ts "." then do
          let (second, ts) ← name (ts.drop 1)
          pure (some first, second, ts)
        else pure (none, first, ts)
      if startsSymbol ts "(" then do
        let (args, ts) ← if startsSymbol (ts.drop 1) ")" then pure ([], ts.drop 1) else exprList n (ts.drop 1)
        let ((), ts) ← symbol ")" ts
        let (a, ts) ← aliasClause ts
        pure (.function tbl args a, ts)
      else
      let (a, ts) ← aliasClause ts
      let ((), ts) ← indexedBy ts
      pure (.table schema tbl a, ts)

end

end Issuance.Sql
