import Issuance.Api.Session.Basic
/-! # Storage steps

Raw writes and erasures, key-value scripts in one transaction, key listings,
and calls on the database itself, past the planted failures. -/
namespace Issuance.Api

open Store

def keyText (k : Bytes) : String :=
  let record := fun (kind : Kind) =>
    let p := Channel.recordPrefix kind
    if Bytes.startsWith k p && k.length == p.length + 32 then
      some ("factory/" ++ kind.word ++ "/" ++ Text.Base58.encode (k.drop p.length))
    else none
  match record .mint with
  | some t => t
  | none => (record .burn).getD (Bytes.toTextLossy k)

def keysJson (ks : List Bytes) : Json := .arr (ks.map fun k => .str (keyText k))

inductive KvOp
  | put (k : Bytes) (v : String)
  | putNat (k : Bytes) (n : Nat)
  | putList (k : Bytes) (vs : List String)
  | erase (k : Bytes)
  | get (k : Bytes)
  | getNat (k : Bytes)
  | has (k : Bytes)
  | raw (k : Bytes)
  | append (k : Bytes) (v : String)
  | getList (k : Bytes)
  | getListText (k : Bytes)
  | getListValue (k : Bytes)
  | keys (p : Bytes)
  | pending

namespace KvOp

def ofJson (j : Json) : Read KvOp := do
  let op ← str j "op"
  match op with
  | "put" => pure (.put (← key j) (← str j "value"))
  | "put_u64" => pure (.putNat (← key j) (← nat j "value" 64))
  | "put_list" => pure (.putList (← key j) (← strs j "values"))
  | "delete" => pure (.erase (← key j))
  | "get" => pure (.get (← key j))
  | "get_u64" => pure (.getNat (← key j))
  | "exists" => pure (.has (← key j))
  | "raw" => pure (.raw (← key j))
  | "append" => pure (.append (← key j) (← str j "value"))
  | "get_list" => pure (.getList (← key j))
  | "get_list_into_string" => pure (.getListText (← key j))
  | "get_list_into_value" => pure (.getListValue (← key j))
  | "keys" => pure (.keys (Bytes.ofString (← str j "prefix")))
  | "pending" => pure .pending
  | _ => throw ("unknown kv op " ++ Text.quoted op)

def found (b : Bool) (v : Json) : Json := obj [("found", .bool b), ("value", v)]

/-- The bytes under a key read as a whole list into a destination that is
no list; absent, the destination is refused before anything is read. -/
def listInto (k : Bytes) (absent : String) (present : Bytes → Txn Json) : Txn Json := do
  match ← Txn.rawGet k with
  | none => Txn.fail (Fault.plain absent)
  | some b => present b

def run : KvOp → Txn Json
  | .put k v => do Txn.write k (.bytes (Bytes.ofString v)); pure nothing
  | .putNat k n => do Txn.write k (.num n); pure nothing
  | .putList k vs => do Txn.write k (.items (vs.map fun v => .bytes (Bytes.ofString v))); pure nothing
  | .erase k => do Txn.erase k; pure nothing
  | .get k => do
    match ← Txn.read (.text "string") k with
    | some (.bytes b) => pure (found true (.str (Bytes.toTextLossy b)))
    | _ => pure (found false (.str ""))
  | .getNat k => do
    match ← Txn.read (.uint 64) k with
    | some (.num n) => pure (found true (.nat n))
    | _ => pure (found false (.nat 0))
  | .has k => do pure (obj [("found", .bool (← Txn.has k))])
  | .raw k => do
    match ← Txn.rawGet k with
    | none => pure (obj [("found", .bool false), ("hex", .str "")])
    | some b => match Rlp.decodeRaw b with
      | .ok r => pure (obj [("found", .bool true), ("hex", .str (Bytes.toHex r))])
      | .error e => Txn.fail (Fault.plain e.message)
  | .append k v => do Txn.append k (Bytes.ofString v); pure nothing
  | .getList k => do pure (.arr ((← Txn.readList k).map fun b => .str (Bytes.toHex b)))
  | .getListText k => listInto k "kv: destination must point to a slice" fun b =>
    match Rlp.decode (.text "string") b with
    | .ok (.bytes t) => pure (.str (Bytes.toTextLossy t))
    | .ok _ => pure (.str "")
    | .error e => Txn.fail (Fault.plain e.message)
  | .getListValue k => listInto k "kv: destination must be a non-nil pointer" fun _ =>
    Txn.fail (Fault.plain "rlp: interface given to Decode must be a pointer")
  | .keys p => do pure (keysJson (← Txn.keys p))
  | .pending => do pure (.nat (← StateT.get).pending)

end KvOp

def attemptJson (m : Txn Json) : Txn Json := do
  match ← Txn.attempt m with
  | .ok j => pure (obj [("ok", j)])
  | .error f => pure (failure f)

namespace Session

/-- Run calls in one transaction, each answering on its own: read-only when
asked, or made to fail at the end so that nothing commits. -/
def script (s : Session) (body : Txn (List Json)) (readOnly failing : Bool) : Session × Outcome :=
  let answer := fun (rs : List Json) (committed : Bool) =>
    Outcome.quiet (obj [("results", .arr rs), ("committed", .bool committed)])
  if readOnly then
    match Store.view s.db body with
    | .ok rs => (s, answer rs false)
    | .error f => (s, .failed f)
  else if failing then
    match body { db := s.db } with
    | .ok (rs, _) => (s, answer rs false)
    | .error f => (s, .failed f)
  else
    match Store.atomic s.db body with
    | .ok (rs, db) => ({ s with db := db }, answer rs true)
    | .error f => (s, .failed f)

/-- A call on the database itself, its planted failures bypassed but kept
for later steps. -/
def direct (s : Session) (r : Database → Except Fault (Json × Database)) : Session × Outcome :=
  match r s.db.bare with
  | .ok (j, db) => ({ s with db := db.withFaults s.db.faults }, .quiet j)
  | .error f => (s, .failed f)

end Session

def batchWriteOf (j : Json) : Read Store.Write := do
  let k ← key j
  if ← bool j "delete" then pure (k, none) else pure (k, some (Bytes.ofString (← str j "value")))

def databaseStep (s : Session) (j : Json) : Read (Session × Outcome) := do
  let action ← str j "action"
  match action with
  | "put" =>
    let k ← key j
    let v ← str j "value"
    pure (s.direct fun db => do pure (nothing, ← db.write [(k, some (Bytes.ofString v))]))
  | "get" =>
    let k ← key j
    pure (s.direct fun db => do
      match ← db.read k with
      | some b => pure (obj [("hex", .str (Bytes.toHex b))], db)
      | none => throw (Fault.plain "storage: key not found"))
  | "delete" =>
    let k ← key j
    pure (s.direct fun db => do pure (nothing, ← db.write [(k, none)]))
  | "keys" =>
    let p ← keyOf j "prefix" "prefix_hex"
    pure (s.direct fun db => do pure (keysJson (← db.list p), db))
  | "batch" =>
    let ws ← list j "ops" batchWriteOf
    pure (s.direct fun db => do
      pure (obj [("len", .nat ws.length), ("len_after", .nat 0)], ← db.write ws))
  | "close" => pure (s.direct fun db => pure (nothing, db.close))
  | _ => throw ("unknown db action " ++ Text.quoted action)

/-- What the state manager says when it is missing or given nothing to run. -/
def managerMisuse : Json :=
  obj [("nil_atomic", .str "state manager not initialised"), ("nil_view", .str "state manager not initialised"),
    ("atomic_nil_fn", .str "state: transition function required"),
    ("view_nil_fn", .str "state: view function required"),
    ("empty_manager_atomic", .str "state manager not initialised")]

/-- The answer of a storage step `op`, or `none` when `op` is not one. -/
def storageStep (s : Session) (j : Json) : String → Option (Read (Session × Outcome))
  | "kv_put_string" => some do
    let k ← key j
    let v ← str j "value"
    pure (s.change (Txn.write k (.bytes (Bytes.ofString v))) fun _ => nothing)
  | "kv_delete" => some do
    let k ← key j
    pure (s.change (Txn.erase k) fun _ => nothing)
  | "kv_keys" => some do
    let p ← keyOf j "prefix" "prefix_hex"
    pure (s.query (Txn.keys p) keysJson)
  | "kv_tx" => some do
    let ops ← list j "ops" KvOp.ofJson
    let readOnly ← bool j "read_only"
    let failing ← bool j "fail"
    pure (s.script (ops.mapM fun o => attemptJson o.run) readOnly failing)
  | "db" => some (databaseStep s j)
  | "manager_nil_calls" => some (pure (s, .quiet managerMisuse))
  | _ => none

end Issuance.Api
