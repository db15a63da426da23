import Issuance.Store.Database
import Issuance.Store.Rlp
/-! # Transactions

A transaction reads through its staged writes, kept in first-written key
order until one batch commit; a read-only one refuses writes. An empty
value counts as absent. -/
namespace Issuance.Store

/-- A transaction: the database it reads, whether it may write, and the
staged writes by key in first-write order (`none` erases). -/
structure Tx where
  db : Database
  readOnly : Bool := false
  staged : List (Bytes × Option Bytes) := []
  deriving Inhabited

abbrev TxnOf (ε : Type) := StateT Tx (Except ε)

abbrev Txn := TxnOf Fault

namespace Tx

def stagedAt (tx : Tx) (k : Bytes) : Option (Option Bytes) :=
  (tx.staged.find? (·.1 == k)).map (·.2)

def raw (tx : Tx) (k : Bytes) : Except Fault (Option Bytes) :=
  match tx.stagedAt k with
  | some v => .ok v
  | none => tx.db.read k

def restage (k : Bytes) (v : Option Bytes) : List (Bytes × Option Bytes) → List (Bytes × Option Bytes)
  | [] => [(k, v)]
  | (k', v') :: rest => if k' == k then (k, v) :: rest else (k', v') :: restage k v rest

def pending (tx : Tx) : Nat := tx.staged.length

def commit (tx : Tx) : Except Fault Database :=
  if tx.readOnly || tx.staged.isEmpty then .ok tx.db
  else match tx.db.write tx.staged with
    | .ok db => .ok db
    | .error f => .error (Fault.within "state: commit" f)

end Tx

namespace Txn

def fail (f : Fault) : Txn α := fun _ => .error f

def lift (r : Except Fault α) : Txn α := fun tx => r.map fun a => (a, tx)

/-- Run `m` and keep its failure as a result; a failed step leaves the
transaction as it was. -/
def attempt (m : Txn α) : Txn (Except Fault α) := fun tx =>
  match m tx with
  | .ok (a, tx') => .ok (.ok a, tx')
  | .error f => .ok (.error f, tx)

def mapFault (g : ε → ε') (m : TxnOf ε α) : TxnOf ε' α := fun tx =>
  match m tx with
  | .ok r => .ok r
  | .error e => .error (g e)

def emptyKey : Fault := Fault.plain "kv: key must not be empty"

def checkKey (k : Bytes) : Txn Unit := if k.isEmpty then fail emptyKey else pure ()

def rawGet (k : Bytes) : Txn (Option Bytes) := do
  checkKey k
  let tx ← get
  match ← lift (tx.raw k) with
  | some v => if v.isEmpty then pure none else pure (some v)
  | none => pure none

def stage (k : Bytes) (v : Option Bytes) : Txn Unit := do
  let tx ← get
  if tx.readOnly then fail (Fault.plain "state: read-only transaction")
  else set { tx with staged := Tx.restage k v tx.staged }

def has (k : Bytes) : Txn Bool := do pure (← rawGet k).isSome

def read (shape : Rlp.Shape) (k : Bytes) : Txn (Option Rlp.Value) := do
  match ← rawGet k with
  | none => pure none
  | some b => match Rlp.decode shape b with
    | .ok v => pure (some v)
    | .error e => fail (Fault.plain e.message)

def write (k : Bytes) (v : Rlp.Value) : Txn Unit := do
  checkKey k
  stage k (some (Rlp.encode v))

def erase (k : Bytes) : Txn Unit := do
  checkKey k
  stage k none

def blobList : Rlp.Shape := .seq .blob "[][]uint8"

/-- The byte strings of a list under a key; absent is empty. -/
def readList (k : Bytes) : Txn (List Bytes) := do
  match ← read blobList k with
  | some (.items vs) => pure (vs.filterMap fun
      | .bytes b => some b
      | _ => none)
  | _ => pure []

def append (k : Bytes) (v : Bytes) : Txn Unit := do
  checkKey k
  let xs ← readList k
  if xs.contains v then pure ()
  else stage k (some (Rlp.encode (.items ((xs ++ [v]).map .bytes))))

/-- Keys under a prefix: committed ones not erased here, and staged ones;
ascending, without repeats. -/
def keys (p : Bytes) : Txn (List Bytes) := do
  let tx ← get
  let committed ← lift (tx.db.list p)
  let kept := committed.filter fun k => tx.stagedAt k != some none
  let added := (tx.staged.filter fun (k, v) => v.isSome && Bytes.startsWith k p && !committed.contains k).map (·.1)
  pure ((kept ++ added).mergeSort fun a b => !Bytes.lt b a)

end Txn

/-- Run `f` in one transaction; commit its writes if it succeeds, and leave
the database as it was if it fails. -/
def atomic (db : Database) (f : Txn α) : Except Fault (α × Database) := do
  let (a, tx) ← f { db := db }
  let db' ← tx.commit
  pure (a, db')

/-- Run `f` in a read-only transaction. -/
def view (db : Database) (f : Txn α) : Except Fault α := do
  let (a, _) ← f { db := db, readOnly := true }
  pure a

end Issuance.Store
