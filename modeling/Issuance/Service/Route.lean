import Issuance.Service.Http
import Issuance.Channel.Id
/-! # Routes

Matched segment by segment; a parameter holds anything but a slash. `/v1`
routes pass credential and budget checks first; channel routes mount under
`/v1/mint-channels` and `/v1/burn-channels`. A non-standard method is
refused first, then a known path under another method; else not found. -/
namespace Issuance.Service

inductive Endpoint
  | getAppConfig
  | createAppConfig
  | setAppConfig
  | listChannels (kind : Kind)
  | createChannel (kind : Kind)
  | getChannel (kind : Kind) (id : String)
  | setChannel (kind : Kind) (id : String)
  | quote (kind : Kind) (id : String)
  | convert (kind : Kind) (id : String)
  | withdrawFee
  | createAsset
  | releaseCustody (asset : String)
  | listFeeds
  | createFeed
  | submitRound (feed : String)
  | listAccounts
  | openAccount
  | getAccount (id : String)
  | audit
  | stream
  deriving DecidableEq, Repr

def Endpoint.idempotent : Endpoint → Bool
  | .convert .. | .withdrawFee => true
  | _ => false

/-- What a lookup finds: an operation, a path without that method, or nothing. -/
inductive Lookup (α : Type) where
  | found (a : α)
  | wrongMethod
  | missing
  deriving DecidableEq, Repr

def byMethod (method : String) (table : List (String × α)) : Lookup α :=
  match table.find? (·.1 == method) with
  | some (_, a) => .found a
  | none => .wrongMethod

/-- The segments of a path that follow a mount: a mount path alone, or with a
trailing slash, is the mount's root. -/
def mounted : List String → List String
  | [] => ["", ""]
  | rest => "" :: rest

def channelRoute (kind : Kind) (method : String) : List String → Lookup Endpoint
  | ["", ""] => byMethod method [("GET", .listChannels kind), ("POST", .createChannel kind)]
  | ["", id] => byMethod method [("GET", .getChannel kind id), ("PUT", .setChannel kind id)]
  | ["", id, "quote"] => byMethod method [("POST", .quote kind id)]
  | ["", id, verb] =>
    if verb = (match kind with | .mint => "mint" | .burn => "burn") then
      byMethod method [("POST", .convert kind id)]
    else .missing
  | _ => .missing

def apiRoute (method : String) : List String → Lookup Endpoint
  | ["", "app-config"] =>
    byMethod method [("GET", .getAppConfig), ("POST", .createAppConfig), ("PUT", .setAppConfig)]
  | "" :: "mint-channels" :: rest => channelRoute .mint method (mounted rest)
  | "" :: "burn-channels" :: rest => channelRoute .burn method (mounted rest)
  | ["", "fees", "withdraw"] => byMethod method [("POST", .withdrawFee)]
  | ["", "assets"] => byMethod method [("POST", .createAsset)]
  | ["", "assets", id, "release"] => byMethod method [("POST", .releaseCustody id)]
  | ["", "feeds"] => byMethod method [("GET", .listFeeds), ("POST", .createFeed)]
  | ["", "feeds", id, "rounds"] => byMethod method [("POST", .submitRound id)]
  | ["", "accounts"] => byMethod method [("GET", .listAccounts), ("POST", .openAccount)]
  | ["", "accounts", id] => if id.isEmpty then .missing else byMethod method [("GET", .getAccount id)]
  | ["", "audit"] => byMethod method [("GET", .audit)]
  | ["", "events", "stream"] => byMethod method [("GET", .stream)]
  | _ => .missing

inductive Target
  | health
  | metrics
  | api (lookup : Lookup Endpoint)
  | refused
  | missing
  deriving DecidableEq, Repr

def knownMethods : List String := ["CONNECT", "DELETE", "GET", "HEAD", "OPTIONS", "PATCH", "POST", "PUT", "TRACE"]

def route (method path : String) : Target :=
  if !knownMethods.contains method then .refused else
  match path.splitOn "/" with
  | ["", "healthz"] => if method = "GET" then .health else .refused
  | ["", "metrics"] => .metrics
  | "" :: "v1" :: rest => .api (apiRoute method (mounted rest))
  | _ => .missing

end Issuance.Service
