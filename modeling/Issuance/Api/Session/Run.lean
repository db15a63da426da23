import Issuance.Api.Session.Engine
import Issuance.Api.Session.Ledger
import Issuance.Api.Session.Bootstrap
import Issuance.Api.Session.Serving
/-! # Running a session

A session request sets up an engine over a fresh database, with the storage
failures it plants, and runs its steps in order, each answered on its own.
When the engine's settings are refused no step runs. -/
namespace Issuance.Api

def Session.step (s : Session) (j : Json) : Session × Outcome :=
  let r : Read (Session × Outcome) := do
    let op ← str j "op"
    let serving := match s.stack with
      | some st => servingStep s st j op
      | none => none
    match engineStep s j op <|> controlStep s j op <|> storageStep s j op <|> ledgerSteps s j op <|>
        bootstrapStep s j op <|> serving with
    | some r => r
    | none => throw ("unknown step op " ++ Text.quoted op)
  match r with
  | .ok p => p
  | .error m => (s, .malformed m)

def Session.run (s : Session) : List Json → List Json
  | [] => []
  | j :: rest =>
    let (s', o) := s.step j
    o.toJson :: (s'.publish o.events).run rest

def engineJson (e : Engine) : Json :=
  obj [("stable_asset", .str e.stableAsset), ("stable_decimals", .nat e.stableDecimals)]

def sessionAnswer (wall : Int) (j : Json) : Read Json := do
  let cfg := objField j "config"
  let rules ← faultRules cfg
  let admins ← list cfg "admins" (addressOf "admins")
  let asset ← strOr cfg "stable_asset" "USDX"
  let decimals ← nat cfg "stable_decimals" 16
  let maxAge ← nat cfg "oracle_max_age_seconds" 32
  let kind ← str cfg "db"
  let onDisk ← match kind with
    | "" | "mem" => pure false
    | "leveldb" => pure true
    | _ => throw ("unknown db " ++ Text.quoted kind)
  let start ← intOr j "start" 1700000000
  let steps ← list j "steps" pure
  match Engine.make true true (Admins.ofList admins) asset decimals maxAge with
  | .error f => pure (obj [("engine", failure f)])
  | .ok e =>
    let s : Session := { engine := e, db := { faults := rules, onDisk := onDisk }, now := start, wall := wall }
    if j.has "server" then
      match ← stackOf (objField j "server") with
      | .error m => pure (obj [("engine", engineJson e), ("server", internal m)])
      | .ok st => pure (obj [("engine", engineJson e), ("steps", .arr ({ s with stack := some st }.run steps))])
    else pure (obj [("engine", engineJson e), ("steps", .arr (s.run steps))])

/-- The answer of building an engine from parts that may be missing. -/
def engineAnswer (j : Json) : Read Json := do
  let hasManager ← bool j "manager"
  let hasAccess ← bool j "access"
  let asset ← str j "stable_asset"
  let decimals ← nat j "stable_decimals" 16
  pure (match Engine.make hasManager hasAccess (Admins.ofList []) asset decimals 0 with
    | .ok e => engineJson e
    | .error f => failure f)

end Issuance.Api
