import Issuance.Address
import Issuance.Decimal.Binary
import Issuance.Text.Path
/-! # The daemon's configuration

Blank or zero settings take their defaults; then the stable asset must be
named with at most nineteen decimals, administrators must be addresses, and
no rate, ratio or limit may be negative. -/
namespace Issuance

open Decimal

structure FactoryConfig where
  stableAsset : String := ""
  stableDecimals : Nat := 0
  oracleMaxAgeSeconds : Nat := 0
  deriving DecidableEq, Repr

structure CustodyConfig where
  keystorePath : String := ""
  passphraseEnv : String := ""
  deriving DecidableEq, Repr

structure AuthConfig where
  hmacSecret : String := ""
  hmacSecretEnv : String := ""
  issuer : String := ""
  audience : String := ""
  clockSkewSeconds : Nat := 0
  deriving DecidableEq, Repr

structure RateLimitConfig where
  requestsPerMinute : Binary64 := .finite false 0 minExponent
  burst : Int := 0
  deriving DecidableEq, Repr

structure LogFileConfig where
  path : String := ""
  maxSizeMB : Int := 0
  maxBackups : Int := 0
  maxAgeDays : Int := 0
  compress : Bool := false
  deriving DecidableEq, Repr

structure TelemetryConfig where
  endpoint : String := ""
  insecure : Bool := false
  headers : String := ""
  traces : Bool := false
  metrics : Bool := false
  sampleRatio : Binary64 := .finite false 0 minExponent
  deriving DecidableEq, Repr

structure Config where
  listenAddress : String := ""
  dataDir : String := ""
  auditDsn : String := ""
  idempotencyPath : String := ""
  idempotencyTtlHours : Nat := 0
  manifestPath : String := ""
  environment : String := ""
  logLevel : String := ""
  admins : List String := []
  factory : FactoryConfig := {}
  custody : CustodyConfig := {}
  auth : AuthConfig := {}
  rateLimit : RateLimitConfig := {}
  logFile : LogFileConfig := {}
  telemetry : TelemetryConfig := {}
  deriving DecidableEq, Repr

namespace Config

def maxDecimals : Nat := 19

/-- A text, or `d` when it is blank. -/
def orText (s d : String) : String := if Text.isBlankText s then d else s

def keystoreBeside (configPath : String) : String :=
  let dir := Text.Path.dir configPath
  Text.Path.join [if dir = "." then "" else dir, "custody.keystore"]

/-- The configuration with blank or zero settings defaulted and paths
joined under the data directory or beside `configPath`. -/
def withDefaults (configPath : String) (c : Config) : Config :=
  let dataDir := orText c.dataDir "./factory-data"
  { c with
    listenAddress := orText c.listenAddress ":7080"
    dataDir := dataDir
    auditDsn := orText c.auditDsn (Text.Path.join [dataDir, "audit.sqlite"])
    idempotencyPath := orText c.idempotencyPath (Text.Path.join [dataDir, "idempotency.db"])
    idempotencyTtlHours := if c.idempotencyTtlHours = 0 then 24 else c.idempotencyTtlHours
    logLevel := orText c.logLevel "info"
    factory := { c.factory with stableDecimals := if c.factory.stableDecimals = 0 then 6 else c.factory.stableDecimals }
    custody := { c.custody with keystorePath := orText c.custody.keystorePath (keystoreBeside configPath) }
    auth := { c.auth with clockSkewSeconds := if c.auth.clockSkewSeconds = 0 then 120 else c.auth.clockSkewSeconds }
    rateLimit := { c.rateLimit with
      requestsPerMinute := if c.rateLimit.requestsPerMinute.isZero then Binary64.ofInt 120
        else c.rateLimit.requestsPerMinute
      burst := if c.rateLimit.burst = 0 then 20 else c.rateLimit.burst }
    telemetry := { c.telemetry with
      sampleRatio := if c.telemetry.sampleRatio.isZero then Binary64.ofInt 1 else c.telemetry.sampleRatio } }

/-- The configuration written when there is no file: the defaults, with
stable asset, oracle age limit, environment and secret names. -/
def initial (configPath : String) : Config :=
  withDefaults configPath
    { listenAddress := ":7080"
      dataDir := "./factory-data"
      environment := "dev"
      factory := { stableAsset := "USDX", stableDecimals := 6, oracleMaxAgeSeconds := 3600 }
      custody := { passphraseEnv := "FACTORY_CUSTODY_PASSPHRASE" }
      auth := { hmacSecretEnv := "FACTORY_JWT_SECRET", issuer := "stablefactory" } }

/-- The first administrator that is no account address, with the reason. -/
def badAdmin (c : Config) : Option (String × String) :=
  c.admins.findSome? fun a => match Address.parse a with
    | .ok _ => none
    | .error e => some (a, e)

def validate (c : Config) : Except String Unit := do
  if Text.isBlankText c.factory.stableAsset then throw "factory: StableAsset required"
  if c.factory.stableDecimals > maxDecimals then
    throw ("factory: StableDecimals " ++ toString c.factory.stableDecimals ++ " exceeds " ++ toString maxDecimals)
  if let some (a, e) := c.badAdmin then throw ("admins: " ++ Text.quoted a ++ ": " ++ e)
  if c.rateLimit.requestsPerMinute.isNegative || c.rateLimit.burst < 0 then
    throw "rate_limit: values must not be negative"
  if c.telemetry.sampleRatio.isNegative || c.telemetry.sampleRatio.exceedsOne then
    throw "telemetry: SampleRatio must be within [0,1]"
  if c.logFile.maxSizeMB < 0 || c.logFile.maxBackups < 0 || c.logFile.maxAgeDays < 0 then
    throw "log_file: rotation limits must not be negative"

/-- The administrators' addresses, or the first that is none. -/
def adminAddresses (c : Config) : Except String (List Address) :=
  c.admins.mapM fun a => (Address.parse a).mapError fun e => "admin " ++ Text.quoted a ++ ": " ++ e

/-- A 64-bit signed count of nanoseconds, wrapped as fixed-width
arithmetic wraps. -/
def wrapNanos (n : Int) : Int :=
  let r := n % Int.pow 2 64
  if r ≥ Int.pow 2 63 then r - Int.pow 2 64 else r

def idempotencyTtlNanos (c : Config) : Int := wrapNanos (c.idempotencyTtlHours * 3600 * 1000000000)

/-- The oracle's age limit in nanoseconds; the count of seconds is first
taken as a signed 64-bit number. -/
def oracleMaxAgeNanos (c : Config) : Int :=
  wrapNanos (wrapNanos c.factory.oracleMaxAgeSeconds * 1000000000)

def clockSkewNanos (c : Config) : Int := wrapNanos (c.auth.clockSkewSeconds * 1000000000)

/-- The token secret: the trimmed value of the variable it names, when that
is set and not blank, else the trimmed secret written in the file. -/
def secret (c : Config) (env : List (String × String)) : String :=
  let name := Text.trim c.auth.hmacSecretEnv
  let fromEnv := if name.isEmpty then "" else Text.trim ((env.lookup name).getD "")
  if fromEnv.isEmpty then Text.trim c.auth.hmacSecret else fromEnv

end Config

end Issuance
