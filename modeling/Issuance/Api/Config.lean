import Issuance.Config.Load
import Issuance.Decimal.Shortest
import Issuance.Text.Time
import Issuance.Api.Request
import Issuance.Api.Reply
/-! # Configurations as answered

Spans are written as hours, minutes and seconds; floats in their shortest
decimal, with an exponent outside powers −4 to 5. -/
namespace Issuance.Api

open Decimal

/-- Floats of a configuration are written in their shortest decimal,
positionally for leading powers of ten from −4 to 5 and with an exponent
`e±dd` otherwise. -/
def configFloat : Layout := ⟨-4, 6, "e", 2, "NaN", "+Inf", "-Inf"⟩

/-- A configuration as answered; `secret` is the token secret when the
environment is given. -/
def configJson (c : Config) (secret : Option String) : Json :=
  obj ([("listen_address", .str c.listenAddress), ("data_dir", .str c.dataDir), ("audit_dsn", .str c.auditDsn),
    ("idempotency_path", .str c.idempotencyPath), ("idempotency_ttl_hours", .nat c.idempotencyTtlHours),
    ("idempotency_ttl", .str (Text.durationNanos c.idempotencyTtlNanos)),
    ("manifest_path", .str c.manifestPath), ("environment", .str c.environment), ("log_level", .str c.logLevel),
    ("admins", .arr (c.admins.map .str)),
    ("admin_addresses", match c.adminAddresses with
      | .ok as => .arr (as.map fun a => .str a.toHex)
      | .error e => failure (Fault.plain e)),
    ("factory", obj [("stable_asset", .str c.factory.stableAsset), ("stable_decimals", .nat c.factory.stableDecimals),
      ("oracle_max_age_seconds", .nat c.factory.oracleMaxAgeSeconds),
      ("oracle_max_age", .str (Text.durationNanos c.oracleMaxAgeNanos))]),
    ("custody", obj [("keystore_path", .str c.custody.keystorePath), ("passphrase_env", .str c.custody.passphraseEnv)]),
    ("auth", obj [("hmac_secret", .str c.auth.hmacSecret), ("hmac_secret_env", .str c.auth.hmacSecretEnv),
      ("issuer", .str c.auth.issuer), ("audience", .str c.auth.audience),
      ("clock_skew_seconds", .nat c.auth.clockSkewSeconds), ("clock_skew", .str (Text.durationNanos c.clockSkewNanos))]),
    ("rate_limit", obj [("requests_per_minute", .str (c.rateLimit.requestsPerMinute.render configFloat)),
      ("burst", .int c.rateLimit.burst)]),
    ("log_file", obj [("path", .str c.logFile.path), ("max_size_mb", .int c.logFile.maxSizeMB),
      ("max_backups", .int c.logFile.maxBackups), ("max_age_days", .int c.logFile.maxAgeDays),
      ("compress", .bool c.logFile.compress)]),
    ("telemetry", obj [("endpoint", .str c.telemetry.endpoint), ("insecure", .bool c.telemetry.insecure),
      ("headers", .str c.telemetry.headers), ("traces", .bool c.telemetry.traces),
      ("metrics", .bool c.telemetry.metrics), ("sample_ratio", .str (c.telemetry.sampleRatio.render configFloat))])] ++
    match secret with
    | some s => [("secret", .str s)]
    | none => [])

def environmentOf (j : Json) : Read (List (String × String)) :=
  match member j "env" with
  | .obj fs => fs.mapM fun (k, v) => match v with
    | .str s => .ok (k, s)
    | _ => .error ("field env must map names to strings")
  | .null => .ok []
  | _ => .error "field env must be an object"

def configFileName : String := "factoryd.toml"

/-- The answer of loading a configuration: the request's text, when given,
is the file `factoryd.toml`, loaded from `path` or from that name. -/
def configAnswer (j : Json) : Read Json := do
  let files : List (String × String) ← match member j "toml" with
    | .null => pure []
    | .str t => pure [(configFileName, t)]
    | _ => throw "field toml must be a string"
  let blocker ← str j "blocker"
  let dir ← str j "dir"
  let path ← strOr j "path" configFileName
  let fs : Files :=
    { files := files ++ (if blocker.isEmpty then [] else [(blocker, "")]),
      dirs := if dir.isEmpty then [] else [dir] }
  let env ← environmentOf j
  pure (match Config.load fs path with
    | .ok c => configJson c (if j.has "env" then some (c.secret env) else none)
    | .error e => failure (Fault.plain e))

end Issuance.Api
