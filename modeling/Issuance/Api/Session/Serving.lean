import Issuance.Api.Session.Basic
import Issuance.Service.AuditSql
import Issuance.Api.Stores
import Issuance.Service.Listen
/-! # Service steps

Requests go to the router; the audit log, cache and hub are reached
directly. Each committed event goes to the audit log and the hub, in order.
A request carries a bearer token minted at the wall clock for its account. -/
namespace Issuance.Api

open Service

def renderedEvent (e : Event) : Json :=
  obj [("type", .str e.type), ("attributes", obj (e.attributes.map fun (k, v) => (k, .str v)))]

def Session.publish (s : Session) (evs : List Event) : Session :=
  match s.stack with
  | none => s
  | some st =>
    { s with stack := some { st with
      audit := st.audit.map fun log => evs.foldl (fun l e => l.append s.now e) log
      hub := evs.foldl (fun h e => h.emit e.type (renderedEvent e)) st.hub } }

def authorizationOf (s : Session) (st : Stack) (j : Json) : Read (Option String) := do
  if (j.field? "authorization").isSome then
    return some (← str j "authorization")
  if j.has "token" then return some ("Bearer " ++ (← str j "token"))
  let opts := objField j "token_opts"
  let asAccount := j.has "as"
  if !asAccount && !opts.has "sub" && !opts.has "sub_raw" then return none
  let subject ← if opts.has "sub_raw" then pure (member opts "sub_raw")
    else if opts.has "sub" then pure (Json.str (← str opts "sub"))
    else pure (.str (← address j "as").toText)
  let expires ← if (← bool opts "no_exp") then pure none
    else pure (some (s.wall + (← intOr opts "exp_offset" 3600)))
  let notBefore ← if opts.has "nbf_offset" then pure (some (s.wall + (← int opts "nbf_offset"))) else pure none
  let issuer ← if (opts.field? "iss").isSome then str opts "iss" else pure st.verifier.issuer
  let audience ← if (opts.field? "aud").isSome then str opts "aud" else pure st.verifier.audience
  let secret ← if opts.has "secret" then str opts "secret" else pure st.secret
  let alg ← strOr opts "alg" "HS256"
  let token := mint alg secret ⟨subject, expires, notBefore, issuer, audience⟩
  let scheme := if (← bool j "authorization_scheme_lower") then "bearer " else "Bearer "
  pure (some (scheme ++ token))

def headersOf (j : Json) : Read (List (String × String)) :=
  match member j "headers" with
  | .obj fs => fs.mapM fun (k, v) => match v with
    | .str t => pure (k, t)
    | _ => throw ("header " ++ Text.quoted k ++ " must be a string")
  | .null => pure []
  | _ => throw "field headers must be an object"

def requestBody (j : Json) : Read String :=
  match j.field? "body" with
  | some v => pure (v.render true)
  | none => strOr j "raw_body" ""

/-- An answer as a step reports it: the status, the two headers that matter,
and the body as JSON when it is one value, else as text. -/
def responseJson (metrics : Bool) (r : Response) : Json :=
  let headers := (r.contentType.map fun t => [("Content-Type", Json.str t)]).getD [] ++
    (if r.cacheHit then [("X-Idempotency-Cache", .str "hit")] else [])
  let body := match Json.parse r.body with
    | .ok v => v
    | .error _ => .str r.body
  obj ([("status", .nat r.status), ("headers", obj headers)] ++
    (if metrics then [("body_omitted", .bool true)] else [("body", body)]))

def auditRecordJson (e : AuditEntry) : Json :=
  obj [("id", .str e.id), ("type", .str e.type), ("channel", .str e.channel),
    ("created_at", .str e.createdAt.rfc3339Nano),
    ("attributes", match decodeAttributes e.attributes with
      | .ok (some a) => attributesView a
      | .ok none => .null
      | .error m => internal m)]

def Session.withStack (s : Session) (st : Stack) : Session := { s with stack := some st }

def Session.subscription (s : Session) (j : Json) : Read Nat := do
  let name ← str j "name"
  match s.subscriptions.find? (·.1 == name) with
  | some (_, i) => pure i
  | none => throw ("no subscription " ++ Text.quoted name)

def reachableHub (st : Stack) : Read Hub :=
  if st.sharedHub then pure st.hub else throw "hub not available"

def auditOf (st : Stack) : Read AuditLog :=
  match st.audit with
  | some l => pure l
  | none => throw "audit not configured"

def cacheOf (st : Stack) : Read Cache :=
  match st.cache with
  | some c => pure c
  | none => throw "idempotency not configured"

def plainOutcome (r : Except String Json) : Outcome :=
  match r with
  | .ok j => .quiet j
  | .error m => .failed (Fault.plain m)

/-- The service a session's `server` settings ask for, or why it cannot be
built: the audit log needs a store name, and the verifier a secret. -/
def stackOf (cfg : Json) : Read (Except String Stack) := do
  let secret ← strOr cfg "secret" "factoryd-test-secret"
  let audit ← bool cfg "audit"
  let dsnGiven := (cfg.field? "audit_dsn").isSome
  let dsn ← str cfg "audit_dsn"
  let idem ← bool cfg "idempotency"
  let ttl ← nat cfg "idempotency_ttl_seconds" 63
  let skew ← nat cfg "clock_skew_seconds" 32
  let buffer ← nat cfg "hub_buffer" 16
  let noHub ← bool cfg "no_hub"
  let limits := objField cfg "rate_limit"
  let rpm ← nat limits "requests_per_minute" 32
  let burst ← nat limits "burst" 16
  let listen ← strOr cfg "listen" "127.0.0.1:0"
  let issuer ← str cfg "issuer"
  let audience ← str cfg "audience"
  if audit && dsnGiven && Text.isBlankText dsn then return .error "audit: dsn required"
  if Text.isBlankText secret then return .error "auth: hmac secret not configured"
  pure (.ok { secret := secret
              verifier := ⟨Text.trim secret, issuer, audience, if skew = 0 then 120 else skew⟩
              limiter := if rpm > 0 then some (Limiter.make (Decimal.Binary64.ofInt rpm) burst) else none
              audit := if audit then some {} else none
              cache := if idem then some (Cache.withTtl ttl) else none
              hub := Hub.make (if noHub then 0 else if (cfg.field? "hub_buffer").isSome then buffer else 16)
              sharedHub := !noHub
              listen := listen })

/-- The answer of a service step `op`, or `none` when `op` is not one. -/
def servingStep (s : Session) (st : Stack) (j : Json) : String → Option (Read (Session × Outcome))
  | "http" => some do
    let method ← str j "method"
    let target ← str j "path"
    let auth ← authorizationOf s st j
    let headers ← headersOf j
    let body ← requestBody j
    let req : Request := ⟨method, target, (auth.map fun a => [("Authorization", a)]).getD [] ++ headers, body⟩
    let b : Backend := ⟨s.engine, s.db, s.now, s.fresh, s.wall⟩
    let served := st.handle b req
    let s' := { s with db := served.db, stack := some served.stack }
    let s' := if served.usedFresh then s'.advanceSerial else s'
    let evs := if s.emitting then served.events else []
    pure (s', .done (responseJson (req.parts.1 == "/metrics") served.response) evs)
  | "hub_subscribe" => some do
    let hub ← reachableHub st
    let name ← str j "name"
    let types ← strs j "types"
    let (hub, i) := hub.subscribe types
    pure ({ s.withStack { st with hub := hub } with
      subscriptions := (name, i) :: s.subscriptions.filter (·.1 != name) },
      .quiet (obj [("subscribers", .nat hub.count)]))
  | "hub_drain" => some do
    let hub ← reachableHub st
    let i ← s.subscription j
    let ((msgs, closed), hub) := hub.drain i
    pure (s.withStack { st with hub := hub }, .quiet (obj [("messages", .arr msgs), ("closed", .bool closed)]))
  | "hub_cancel" => some do
    let hub ← reachableHub st
    let i ← s.subscription j
    let hub := hub.cancel i
    pure (s.withStack { st with hub := hub }, .quiet (obj [("subscribers", .nat hub.count)]))
  | "hub_close" => some do
    let hub ← reachableHub st
    pure (s.withStack { st with hub := hub.close }, .quiet (obj [("subscribers", .nat 0)]))
  | "hub_emit_raw" => some do
    let _ ← reachableHub st
    let variant ← str j "variant"
    if variant == "" || variant == "empty" then pure (s, .quiet nothing)
    else throw ("unknown variant " ++ Text.quoted variant)
  | "stream_open" => some (pure (s, .quiet (obj [("connected", .bool false), ("status", .nat 0)])))
  | "stream_read" | "stream_close" => some do
    let name ← str j "name"
    throw ("no stream " ++ Text.quoted name)
  | "audit_recent" => some do
    let log ← auditOf st
    let type ← str j "type"
    let channel ← str j "channel"
    let limit ← int j "limit"
    pure (s, plainOutcome ((log.recent type channel limit).map fun es => .arr (es.map auditRecordJson)))
  | "audit_between" => some do
    let log ← auditOf st
    let start ← int j "start"
    let stop ← int j "end"
    pure (s, plainOutcome ((log.between ⟨start, 0⟩ ⟨stop, 0⟩).map fun es => .arr (es.map auditRecordJson)))
  | "audit_export" => some do
    let log ← auditOf st
    let dir ← str j "dir"
    let start ← int j "start"
    let stop ← int j "end"
    let blocker ← bool j "blocker"
    let precreate ← strs j "precreate"
    let files := if blocker then { st.files with files := st.files.files ++ [(dir, "")] } else st.files
    let files := { files with dirs := files.dirs ++ precreate.map fun n => Text.Path.join [dir, n] }
    match log.export files dir ⟨start, 0⟩ ⟨stop, 0⟩ with
    | .ok (x, files) =>
      pure (s.withStack { st with files := files }, .quiet (obj [("start", .int x.start.seconds),
        ("end", .int x.stop.seconds),
        ("count", .nat x.count), ("csv_path", .str x.csvPath), ("parquet_path", .str x.parquetPath),
        ("csv", .str x.csv), ("parquet_written", .bool true)]))
    | .error m => pure (s.withStack { st with files := files }, .failed (Fault.plain m))
  | "audit_emit_raw" => some do
    let type ← str j "type"
    let variant ← str j "variant"
    match variant with
    | "nil" => pure (s, .quiet nothing)
    | "" => do
      let _ ← auditOf st
      pure (s, .failed (Fault.plain ("audit: event " ++ type ++ " has no rendered form")))
    | "empty" => do
      let _ ← auditOf st
      pure (s, .failed (Fault.plain ("audit: event " ++ type ++ " rendered empty")))
    | v => throw ("unknown variant " ++ Text.quoted v)
  | "audit_sql" => some do
    let sql ← str j "sql"
    let log := st.audit.getD AuditLog.withoutTable
    let (log', result) := log.execute s.now sql
    let st' := if st.audit.isSome then { st with audit := some log' } else st
    match result with
    | .ok n => pure (s.withStack st', .quiet (obj [("rows_affected", .nat n)]))
    | .error m => pure (s.withStack st', .failed (Fault.plain m))
  | "audit_close" => some (pure (s.withStack { st with audit := st.audit.map AuditLog.close }, .quiet nothing))
  | "idem_get" => some do
    let cache ← cacheOf st
    let key ← str j "key"
    let (r, cache) := cache.get s.now key
    pure (s.withStack { st with cache := some cache }, plainOutcome (r.map cachedJson))
  | "idem_put" => some do
    let cache ← cacheOf st
    let key ← str j "key"
    let status ← int j "status"
    let body ← str j "body"
    match cache.put s.now key status (Bytes.ofString body) with
    | .ok cache => pure (s.withStack { st with cache := some cache }, .quiet nothing)
    | .error m => pure (s, .failed (Fault.plain m))
  | "idem_prune" => some do
    let cache ← cacheOf st
    match cache.prune s.now with
    | .ok (n, cache) => pure (s.withStack { st with cache := some cache }, .quiet (obj [("removed", .nat n)]))
    | .error m => pure (s, .failed (Fault.plain m))
  | "idem_close" => some (pure (s.withStack { st with cache := st.cache.map Cache.close }, .quiet nothing))
  | "reporter_refresh" => some do
    let listed : Except Fault Unit := do
      let _ ← runView s.db (Engine.listMintChannels s.now)
      let _ ← runView s.db (Engine.listBurnChannels s.now)
      pure ()
    pure (s, match listed with
      | .ok () => .quiet nothing
      | .error f => .failed f)
  | "reporter_emit" => some (pure (s, .quiet nothing))
  | "run_server" => some do
    if ← bool j "nil" then return (s, .failed (Fault.plain "server not configured"))
    let s' := s.withStack { st with hub := st.hub.close }
    match listenError st.listen with
    | some e => pure (s', .failed (Fault.plain ("listen and serve: " ++ e)))
    | none => pure (s', .quiet (obj [("stopped", .bool true), ("subscribers", .nat 0)]))
  | _ => none

end Issuance.Api
