import Issuance.Sql.Syntax
/-! # Tables and the database

Typed columns and rows in rowid order, with the database's constraints; a
unique index forbids two rows equal in all its columns. The database holds
tables, indexes, views and triggers with their statements. -/
namespace Issuance.Sql

inductive Place
  | main
  | temp
  | attached (name : String)
  deriving DecidableEq, Repr, Inhabited

def Place.name : Place → String
  | .main => "main"
  | .temp => "temp"
  | .attached n => n

structure Column where
  name : String
  type : String := ""
  affinity : Affinity := Affinity.ofType type
  notNull : Option (Option Conflict) := none
  default : Option Expr := none
  collation : Option String := none
  generated : Option (Expr × Bool) := none
  inPrimaryKey : Bool := false
  declaredUnique : Bool := false
  deriving Inhabited

structure Row where
  rowid : Int
  values : List Value
  deriving DecidableEq, Repr, Inhabited

structure Table where
  name : String
  columns : List Column
  rows : List Row := []
  rowidColumn : Option Nat := none
  keyConflict : Option Conflict := none
  checks : List (String × Expr) := []
  autoincrement : Bool := false
  strict : Bool := false
  withoutRowid : Bool := false
  place : Place := .main
  sql : Option String := none
  seq : Nat := 0
  deriving Inhabited

structure Index where
  name : String
  table : String
  columns : List Nat
  unique : Bool
  primary : Bool := false
  onConflict : Option Conflict := none
  filter : Option Expr := none
  sql : Option String := none
  place : Place := .main
  seq : Nat := 0
  deriving Inhabited

structure View where
  name : String
  columns : List String
  query : Query
  place : Place := .main
  sql : String
  seq : Nat := 0
  deriving Inhabited

structure Trigger where
  name : String
  table : String
  tablePlace : Place
  place : Place
  time : TriggerTime
  event : TriggerEvent
  condition : Option Expr
  body : List Stmt
  sql : String
  seq : Nat := 0
  fuel : Nat
  deriving Inhabited

structure Database where
  tables : List Table := []
  indexes : List Index := []
  views : List View := []
  triggers : List Trigger := []
  attached : List String := []
  deriving Inhabited

def sameName (a b : String) : Bool := a.toList.map foldAscii == b.toList.map foldAscii

def sequenceTable : String := "sqlite_sequence"

def isRowidName (n : String) : Bool := sameName n "rowid" || sameName n "oid" || sameName n "_rowid_"

def Table.columnIndex? (t : Table) (n : String) : Option Nat := t.columns.findIdx? (sameName ·.name n)

namespace Database

def putTable (db : Database) (t : Table) : Database :=
  { db with tables := db.tables.map fun u => if sameName u.name t.name && u.place == t.place then t else u }

def tableIn? (db : Database) (p : Place) (n : String) : Option Table :=
  db.tables.find? fun t => sameName t.name n && t.place == p

def placeNamed? (db : Database) (s : String) : Option Place :=
  if sameName s "main" then some .main
  else if sameName s "temp" then some .temp
  else (db.attached.find? (sameName · s)).map .attached

def searchOrder (db : Database) : List Place := .temp :: .main :: db.attached.map .attached

def table? (db : Database) (n : String) : Option Table :=
  db.searchOrder.findSome? (db.tableIn? · n)

def indexesOf (db : Database) (t : Table) : List Index :=
  db.indexes.filter fun i => sameName i.table t.name && i.place == t.place

def uniqueIndexes (db : Database) (t : Table) : List Index :=
  let us := ((db.indexesOf t).filter (·.unique)).reverse
  us.filter (·.onConflict != some .replace) ++ us.filter (·.onConflict == some .replace)

def dropTable (db : Database) (n : String) (p : Place := .main) : Database :=
  { db with tables := db.tables.filter (fun t => !(sameName t.name n && t.place == p)),
            indexes := db.indexes.filter (fun i => !(sameName i.table n && i.place == p)),
            triggers := db.triggers.filter (fun tr => !(sameName tr.table n && tr.tablePlace == p)) }

def nextSeq (db : Database) (p : Place) : Nat :=
  let seqs := (db.tables.filter (·.place == p)).map (·.seq) ++ (db.indexes.filter (·.place == p)).map (·.seq) ++
    (db.views.filter (·.place == p)).map (·.seq) ++ (db.triggers.filter (·.place == p)).map (·.seq)
  seqs.foldl max 0 + 1

def findTable (db : Database) (schema : Option String) (n : String) : Option Table :=
  match schema with
  | none => db.table? n
  | some s => (db.placeNamed? s).bind fun p => db.tableIn? p n

def findView (db : Database) (schema : Option String) (n : String) : Option View :=
  let inSchema := fun (p : Place) => db.views.find? fun v => sameName v.name n && v.place == p
  match schema with
  | none => db.searchOrder.findSome? inSchema
  | some s => (db.placeNamed? s).bind inSchema

def triggerIn? (db : Database) (p : Place) (n : String) : Option Trigger :=
  db.triggers.find? fun tr => sameName tr.name n && tr.place == p

def triggersOn (db : Database) (t : Table) : List Trigger :=
  let on := db.triggers.filter fun tr => sameName tr.table t.name && tr.tablePlace == t.place
  (on.filter (·.place != t.place)).reverse ++ (on.filter (·.place == t.place)).reverse

end Database

def insertRow (r : Row) : List Row → List Row
  | [] => [r]
  | x :: xs => if r.rowid < x.rowid then r :: x :: xs else x :: insertRow r xs

def nextRowid (rows : List Row) : Int :=
  match rows.getLast? with
  | some r => r.rowid + 1
  | none => 1

theorem insertRow_length (r : Row) (rows : List Row) : (insertRow r rows).length = rows.length + 1 := by
  induction rows with
  | nil => rfl
  | cons x xs ih =>
    simp only [insertRow]
    split <;> simp [ih]

end Issuance.Sql
