import Issuance.Store.Basic
import Issuance.Fault
/-! # Databases

A committed store behind which failures can be planted: a rule names a kind
of call and a key prefix, and such a call on a matching key fails; a batch
fails whole. A closed on-disk database fails every call. -/
namespace Issuance.Store

inductive Method
  | get
  | keys
  | write
  deriving DecidableEq, Repr

def Method.word : Method → String
  | .get => "get"
  | .keys => "keys"
  | .write => "write"

/-- Calls of `method` on keys under `pre` fail. -/
structure FaultRule where
  method : Method
  pre : Bytes
  deriving DecidableEq, Repr

/-- A store, the rules in force, and whether it is on disk and closed. -/
structure Database where
  store : Store := {}
  faults : List FaultRule := []
  onDisk : Bool := false
  closed : Bool := false
  deriving Inhabited

namespace Database

def injected (m : Method) : Fault := Fault.plain ("storage: injected " ++ m.word ++ " fault")

def trips (db : Database) (m : Method) (k : Bytes) : Bool :=
  db.faults.any fun r => r.method = m && Bytes.startsWith k r.pre

def closedFault (db : Database) : Option Fault :=
  if db.onDisk && db.closed then some (Fault.plain "leveldb: closed") else none

def read (db : Database) (k : Bytes) : Except Fault (Option Bytes) :=
  if db.trips .get k then .error (injected .get)
  else match db.closedFault with
    | some f => .error f
    | none => .ok (db.store.get? k)

def list (db : Database) (p : Bytes) : Except Fault (List Bytes) :=
  if db.trips .keys p then .error (injected .keys)
  else match db.closedFault with
    | some f => .error f
    | none => .ok (db.store.keys p)

def write (db : Database) (ws : List Store.Write) : Except Fault Database :=
  if ws.any (fun w => db.trips .write w.1) then .error (injected .write)
  else match db.closedFault with
    | some f => .error f
    | none => .ok { db with store := db.store.apply ws }

def bare (db : Database) : Database := { db with faults := [] }

/-- The database once closed; only an on-disk one minds. -/
def close (db : Database) : Database := { db with closed := true }

def withFaults (db : Database) (rules : List FaultRule) : Database := { db with faults := rules }

end Database

end Issuance.Store
