import Issuance.Sql.Value
/-! # Statements and expressions

The shapes of a statement once read: queries, row changes, transaction
control, schema definitions and the rest. Names stay as written until
resolved. -/
namespace Issuance.Sql

inductive BinOp
  | or
  | and
  | eq
  | ne
  | lt
  | le
  | gt
  | ge
  | is
  | isNot
  | bitAnd
  | bitOr
  | shl
  | shr
  | add
  | sub
  | mul
  | div
  | rem
  | concat
  | extract (asText : Bool)
  deriving DecidableEq, Repr, Inhabited

inductive UnOp
  | neg
  | pos
  | not
  | bitNot
  deriving DecidableEq, Repr, Inhabited

inductive PatternOp
  | like
  | glob
  | regexp
  | match
  deriving DecidableEq, Repr, Inhabited

inductive CompoundOp
  | union
  | unionAll
  | intersect
  | except
  deriving DecidableEq, Repr, Inhabited

inductive Moment
  | time
  | date
  | timestamp
  deriving DecidableEq, Repr, Inhabited

inductive JoinKind
  | inner
  | left
  | right
  | full
  deriving DecidableEq, Repr

def JoinKind.keepsRight : JoinKind → Bool
  | .right | .full => true
  | _ => false

def JoinKind.keepsLeft : JoinKind → Bool
  | .left | .full => true
  | _ => false

inductive FrameUnit
  | rows
  | range
  | groups
  deriving DecidableEq, Repr

inductive FrameExclude
  | noOthers
  | currentRow
  | group
  | ties
  deriving DecidableEq, Repr

mutual
inductive Expr
  | lit (v : Value)
  | integer (text : String)
  | name (parts : List String) (quoted doubleQuoted : Bool)
  | bound (source column : Nat) (affinity : Affinity)
  | var (text : String)
  | now (m : Moment)
  | unary (op : UnOp) (e : Expr)
  | binary (op : BinOp) (a b : Expr)
  | isNull (e : Expr) (negated : Bool)
  | inList (e : Expr) (items : List Expr) (negated : Bool)
  | inQuery (e : Expr) (q : Query) (negated : Bool)
  | inTable (e : Expr) (table : List String) (negated : Bool)
  | between (e lo hi : Expr) (negated : Bool)
  | pattern (op : PatternOp) (e pat : Expr) (escape : Option Expr) (negated : Bool)
  | call (name : String) (args : List Expr) (distinct star : Bool)
  | aggregate (name : String) (args : List Expr) (distinct star : Bool) (filter : Option Expr)
  | applied (id : Nat) (name : String) (args : List Expr) (distinct star : Bool) (filter : Option Expr)
      (overClause : Option Window)
  | truth (e : Expr) (wanted negated : Bool)
  | cast (e : Expr) (typeName : String)
  | case (base : Option Expr) (arms : List (Expr × Expr)) (otherwise : Option Expr)
  | collate (e : Expr) (name : String)
  | exists (q : Query)
  | subquery (q : Query)
  | vector (items : List Expr)
  | field (e : Expr) (index : Nat)
  | raise (kind : String) (message : String)

inductive FrameBound
  | unboundedPreceding
  | preceding (offset : Expr)
  | currentRow
  | following (offset : Expr)
  | unboundedFollowing

inductive Frame
  | mk (unit : FrameUnit) (start finish : FrameBound) (exclude : FrameExclude)

inductive Window
  | named (name : String)
  | spec (base : Option String) (partition : List Expr) (orderBy : List (Expr × Bool)) (frame : Option Frame)

inductive ResultColumn
  | all
  | allOf (table : String)
  | expr (e : Expr) (asName : Option String) (text : String)

inductive Source
  | table (schema : Option String) (name : String) (asName : Option String)
  | query (q : Query) (asName : Option String)
  | join (a b : Source) (kind : JoinKind) (natural : Bool) (on : Option Expr) (shared : List String)
  | pending (asName : Option String)
  | function (name : String) (args : List Expr) (asName : Option String)

inductive Query
  | select (distinct : Bool) (columns : List ResultColumn) (source : Option Source) (filter : Option Expr)
      (groupBy : List Expr) (having : Option Expr) (windows : List (String × Window))
  | values (rows : List (List Expr))
  | compound (op : CompoundOp) (a b : Query)
  | ordered (q : Query) (orderBy : List (Expr × Bool)) (limit offset : Option Expr)
  | defining (defs : List (String × List String × Query)) (body : Query)
  | recursive (anchor step : Query) (distinct : Bool)
end

instance : Inhabited Expr := ⟨.lit .null⟩

instance : Inhabited Query := ⟨.values []⟩

inductive Conflict
  | abort
  | fail
  | ignore
  | replace
  | rollback
  deriving DecidableEq, Repr, Inhabited

structure TableName where
  schema : Option String
  name : String
  deriving DecidableEq, Repr, Inhabited

inductive Upsert
  | nothing (target : List Expr)
  | update (target : List Expr) (sets : List (String × Expr)) (filter : Option Expr)

inductive ColumnRule
  | notNull (onConflict : Option Conflict)
  | primary (descending : Bool) (onConflict : Option Conflict) (autoincrement : Bool)
  | unique (onConflict : Option Conflict)
  | check (name : String) (e : Expr)
  | default (e : Expr)
  | collate (name : String)
  | generated (e : Expr) (stored : Bool)

structure ColumnDef where
  name : String
  type : String := ""
  rules : List ColumnRule := []
  left : Nat := 0
  deriving Inhabited

inductive TableRule
  | primary (columns : List (Expr × Bool)) (autoincrement : Bool) (onConflict : Option Conflict)
  | unique (columns : List (Expr × Bool)) (onConflict : Option Conflict)
  | check (name : String) (e : Expr)

structure TableDef where
  temp : Bool
  ifNotExists : Bool
  name : TableName
  written : String
  columns : List ColumnDef
  rules : List TableRule
  withoutRowid : Bool
  strict : Bool
  sql : String
  addAt : Nat

inductive Alteration
  | renameTable (newName : String)
  | renameColumn (old new : String) (oldWritten : String) (quoted : Bool)
  | addColumn (c : ColumnDef) (text : String)
  | dropColumn (name : String) (written : String)

inductive TriggerTime
  | before
  | after
  | insteadOf
  deriving DecidableEq, Repr, Inhabited

inductive TriggerEvent
  | insert
  | delete
  | update (columns : List String)
  deriving DecidableEq, Repr, Inhabited

inductive Stmt
  | query (q : Query)
  | insert (conflict : Option Conflict) (table : TableName) (asName : Option String) (columns : Option (List String))
      (rows : Option Query) (upserts : List Upsert) (returning : Option (List ResultColumn))
  | update (conflict : Option Conflict) (table : TableName) (asName : Option String) (sets : List (String × Expr))
      (source : Option Source) (filter : Option Expr) (returning : Option (List ResultColumn))
  | delete (table : TableName) (asName : Option String) (filter : Option Expr)
      (returning : Option (List ResultColumn))
  | begin
  | commit
  | rollback (savepoint : Option String)
  | savepoint (name : String)
  | release (name : String)
  | createTable (d : TableDef)
  | createTableAs (temp ifNotExists : Bool) (table : TableName) (written : String) (q : Query)
  | createIndex (unique ifNotExists : Bool) (name : TableName) (table : String) (columns : List (Expr × Bool))
      (filter : Option Expr) (text : String)
  | createView (temp ifNotExists : Bool) (name : TableName) (written : String) (columns : List String) (q : Query)
      (text : String)
  | createTrigger (temp ifNotExists : Bool) (name : TableName) (written : String) (time : TriggerTime)
      (event : TriggerEvent)
      (table : TableName) (condition : Option Expr) (body : List Stmt) (text : String) (fuel : Nat)
  | alter (table : TableName) (change : Alteration)
  | defining (defs : List (String × List String × Query)) (s : Stmt)
  | dropTable (ifExists : Bool) (table : TableName)
  | dropOther (kind : String) (ifExists : Bool) (table : TableName)
  | vacuum
  | attach (file name : Expr)
  | detach (name : Expr)
  | explain (s : Stmt)
  | quiet

def FrameBound.offset? : FrameBound → Option Expr
  | .preceding e | .following e => some e
  | _ => none

def Window.terms : Window → List Expr
  | .named _ => []
  | .spec _ partition orderBy frame =>
    partition ++ orderBy.map (·.1) ++
      (match frame with
        | some (.mk _ start finish _) => start.offset?.toList ++ finish.offset?.toList
        | none => [])

def FrameBound.mapOffset (f : Expr → Expr) : FrameBound → FrameBound
  | .preceding e => .preceding (f e)
  | .following e => .following (f e)
  | b => b

def Window.mapTerms (f : Expr → Expr) : Window → Window
  | .named nm => .named nm
  | .spec base partition orderBy frame =>
    .spec base (partition.map f) (orderBy.map fun (e, d) => (f e, d))
      (frame.map fun fr => match fr with
        | .mk u start finish x => .mk u (start.mapOffset f) (finish.mapOffset f) x)

def clauseTerms (filter : Option Expr) (overClause : Option Window) : List Expr :=
  filter.toList ++ (overClause.map Window.terms).getD []

def Source.lateral : Source → Bool
  | .function .. => true
  | .join a b _ _ _ _ => a.lateral || b.lateral
  | _ => false

def Source.width : Source → Nat
  | .table .. | .query .. | .pending _ | .function .. => 1
  | .join a b _ _ _ _ => a.width + b.width

end Issuance.Sql
