import Issuance.Api.Request
import Issuance.Api.Reply
import Issuance.Sql.Dsn
import Issuance.Service.Cache
/-! # Opening the service's stores

The response cache opens its own file, seeded with raw entries, on a clock
only the script moves. The audit log refuses a file that is no database. -/
namespace Issuance.Api

open Service

/-- Why a file cannot be opened for writing in an empty directory: the path
names the directory itself or ends in a slash, or a directory on the way is
missing. -/
def openError (path : String) : Option String :=
  let ps := Files.parts path
  let fail := fun (why : String) => some ("open " ++ path ++ ": " ++ why)
  if ps.all (· == "..") then fail "is a directory"
  else if (ps.dropLast.any (· != "..")) then fail "no such file or directory"
  else if path.endsWith "/" then fail "is a directory"
  else none

def cacheCalls : List String := ["get", "put", "prune", "advance", "close"]

/-- A stored answer as a step or call reports it; the zero record when none
is found. -/
def cachedJson (found : Option Cached) : Json :=
  let c := found.getD {}
  obj [("found", .bool found.isSome), ("status", .int c.status), ("body", .str (Bytes.toTextLossy c.body)),
    ("stored_at", .int c.storedAt.seconds), ("expires_at", .int c.expiresAt.seconds)]

def cacheCall (c : Cache) (now : Int) (j : Json) : Read (Json × Cache × Int) := do
  match ← str j "call" with
  | "get" =>
    let (r, c) := c.get now (← str j "key")
    pure (match r with
      | .ok found => cachedJson found
      | .error m => internal m, c, now)
  | "put" =>
    match c.put now (← str j "key") (← int j "status") (Bytes.ofString (← str j "body")) with
    | .ok c => pure (nothing, c, now)
    | .error m => pure (internal m, c, now)
  | "prune" =>
    match c.prune now with
    | .ok (n, c) => pure (obj [("removed", .nat n)], c, now)
    | .error m => pure (internal m, c, now)
  | "advance" =>
    let later := now + (← int j "seconds")
    pure (obj [("now", .int later)], c, later)
  | _ => pure (nothing, c.close, now)
where
  nothing : Json := obj []

def cacheScript (c : Cache) (now : Int) : List Json → Read (List Json)
  | [] => pure []
  | j :: rest => do
    let (r, c', now') ← cacheCall c now j
    pure (r :: (← cacheScript c' now' rest))

def cacheOpenAnswer (j : Json) : Read Json := do
  let calls ← list j "calls" pure
  for call in calls do
    let name ← str call "call"
    if !cacheCalls.contains name then throw ("unknown call " ++ Text.quoted name)
  let path ← str j "path"
  let ttl ← int j "ttl_seconds"
  let now ← int j "now"
  let bucket ← strOr j "raw_bucket" "responses"
  let raw ← match member j "raw" with
    | .obj fs => fs.mapM fun (k, v) => match v with
      | .str t => pure (k, t)
      | _ => throw ("raw entry " ++ Text.quoted k ++ " must be a string")
    | _ => pure []
  if Text.isBlankText path then return internal "idempotency: path required"
  match openError path with
  | some e => pure (internal e)
  | none =>
    let seeded := if bucket == "responses" then raw.foldl (fun acc (k, v) => acc.filter (·.1 != k) ++ [(k, v)]) []
      else []
    let cache := Cache.withTtl ttl seeded
    if j.has "calls" then
      pure (obj [("ok", .bool true), ("results", .arr (← cacheScript cache now calls)), ("nil_close", .bool true)])
    else pure (obj [("ok", .bool true)])

/-- The answer of opening the audit log on a store name, a file's text written there first. -/
def auditOpenAnswer (j : Json) : Read Json := do
  let dsn ← str j "dsn"
  if ← bool j "nil_db" then return internal "audit: database required"
  if Text.isBlankText dsn then return internal "audit: dsn required"
  let content ← str j "file_content"
  let fs : Files := if j.has "file_content" then { files := [(dsn, content)] } else {}
  match Sql.openForAudit fs (fun _ => false) (Text.trim dsn) with
  | .error e => pure (internal e)
  | .ok _ => pure (obj [("ok", .bool true)])

end Issuance.Api
