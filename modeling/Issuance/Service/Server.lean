import Issuance.Service.Cache
import Issuance.Service.Handler
import Issuance.Service.Hub
import Issuance.Service.Limiter
import Issuance.Service.Token
/-! # The service

Under `/v1` the bearer token and budget are checked before the route. A
conversion or withdrawal with an `Idempotency-Key` is answered from a live
cache entry, marked a replay; else it runs and a success is stored. -/
namespace Issuance.Service

/-- The parts of a running service, and the secret it was given. -/
structure Stack where
  secret : String
  verifier : Verifier
  limiter : Option Limiter := none
  audit : Option AuditLog := none
  cache : Option Cache := none
  hub : Hub := Hub.make 16
  sharedHub : Bool := true
  listen : String := "127.0.0.1:0"
  files : Files := {}

/-- What serving a request did: the answer, the service and database after
it, the events committed, and whether the fresh identifier was used. -/
structure Served where
  response : Response
  stack : Stack
  db : Store.Database
  events : List Event := []
  usedFresh : Bool := false

/-- The answer of a replayed entry: its status and body, marked as a replay;
a status no answer can carry fails as an internal error with no body. -/
def replay (c : Cached) : Response :=
  if c.status < 100 || c.status > 999 then ⟨500, some "application/json", true, ""⟩
  else ⟨c.status.toNat, some "application/json", true, Bytes.toTextLossy c.body⟩

def healthAnswer (subscribers : Nat) : Response :=
  answer 200 (.obj [("status", .str "ok"), ("subscribers", .nat subscribers)])

/-- The metrics answer; its text is not part of the answer. -/
def metricsAnswer : Response := ⟨200, some "text/plain; version=0.0.4; charset=utf-8", false, ""⟩

def unauthenticated (message : String) : Response := problem 401 "unauthenticated" message

namespace Stack

/-- Serve an operation, through the response cache when it takes keyed
retries and the request carries a key. -/
def serveKeyed (st : Stack) (b : Backend) (caller : Address) (r : Request) (path : String) (e : Endpoint) :
    Served :=
  let plain := fun (st : Stack) =>
    let h := b.serve caller st.audit r e
    (⟨h.response, st, h.db, h.events, h.usedFresh⟩ : Served)
  let idem := Text.trim (r.header "Idempotency-Key")
  match st.cache with
  | some cache =>
    if !e.idempotent || idem.isEmpty then plain st else
    let key := cacheKey caller.toText r.method path idem
    let (found, cache) := cache.get b.now key
    match found with
    | .ok (some c) => ⟨replay c, { st with cache := some cache }, b.db, [], false⟩
    | _ =>
      let h := b.serve caller st.audit r e
      let status := h.response.status
      let cache :=
        if 200 ≤ status && status < 300 then
          match cache.put b.now key status (Bytes.ofString h.response.body) with
          | .ok c => c
          | .error _ => cache
        else cache
      ⟨h.response, { st with cache := some cache }, h.db, h.events, h.usedFresh⟩
  | none => plain st

def handle (st : Stack) (b : Backend) (r : Request) : Served :=
  let (path, routePath) := r.paths
  let reply := fun (resp : Response) => (⟨resp, st, b.db, [], false⟩ : Served)
  match route r.method routePath with
  | .refused => reply notAllowed
  | .missing => reply notFound
  | .health => reply (healthAnswer st.hub.count)
  | .metrics => reply metricsAnswer
  | .api found =>
    let token := bearerOf (r.header "Authorization")
    if token.isEmpty then reply (unauthenticated "missing bearer token") else
    match st.verifier.verify b.wall token with
    | .error _ => reply (unauthenticated "invalid token")
    | .ok caller =>
      let (allowed, st) := match st.limiter with
        | some l =>
          let (ok, l) := l.allow caller.toText
          (ok, { st with limiter := some l })
        | none => (true, st)
      if !allowed then ⟨problem 429 "rate_limited" "Too Many Requests", st, b.db, [], false⟩ else
      match found with
      | .wrongMethod => ⟨notAllowed, st, b.db, [], false⟩
      | .missing => ⟨notFound, st, b.db, [], false⟩
      | .found e => st.serveKeyed b caller r path e

end Stack

theorem replay_hit (c : Cached) : (replay c).cacheHit = true := by
  unfold replay
  split <;> rfl

end Issuance.Service
