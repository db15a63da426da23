import Issuance.Config.Basic
import Issuance.Toml.Read
import Issuance.Text.Case
/-! # A configuration from a TOML document

A key sets the field of its name, else the first matching it case-folded;
the first unknown key is reported. A wrong kind stops reading with the key
and line; a float count must be exact, a 64-bit unsigned one wraps. -/
namespace Issuance.Config

open Toml Decimal

abbrev Reading := StateT (List Key) (Except String)

def unfitAt (d : Document) (ctx : Key) (msg : String) : String :=
  if ctx.isEmpty then "toml: " ++ msg else
  let shown := Text.quoted (Key.text ctx)
  let line := d.lineOf ctx
  if line > 0 then "toml: line " ++ toString line ++ " (last key " ++ shown ++ "): " ++ msg
  else "toml: (last key " ++ shown ++ "): " ++ msg

def outOfRangeAt (d : Document) (ctx : Key) (msg : String) : String :=
  ReadError.text ⟨d.lineOf ctx, Key.text ctx, msg⟩

def wrongKind (d : Document) (ctx : Key) (dst : String) (v : Value) : String :=
  unfitAt d ctx ("incompatible types: TOML value has type " ++ v.typeName ++ "; destination has type " ++ dst)

abbrev FieldReader (α : Type) := Document → Key → Value → Except String α

def textOf : FieldReader String := fun d ctx v =>
  match v with
  | .str s => .ok s
  | _ => .error (wrongKind d ctx "string" v)

/-- An unsigned count of `bits` bits; a 64-bit one takes a negative count
modulo 2^64. -/
def unsignedOf (bits : Nat) (typ : String) : FieldReader Nat := fun d ctx v =>
  match v with
  | .int n =>
    if bits = 64 then .ok (n % Int.pow 2 64).toNat
    else if n < 0 || n ≥ Int.pow 2 bits then .error (outOfRangeAt d ctx (toString n ++ " is out of range for " ++ typ))
    else .ok n.toNat
  | _ => .error (wrongKind d ctx "integer" v)

def signedOf : FieldReader Int := fun d ctx v =>
  match v with
  | .int n => .ok n
  | _ => .error (wrongKind d ctx "integer" v)

def maxSafeInt : Nat := Nat.pow 2 53 - 1

/-- A float; an integer is taken when it is exact as a float. -/
def floatOf : FieldReader Binary64 := fun d ctx v =>
  match v with
  | .float x => .ok x
  | .int n =>
    if n.natAbs > maxSafeInt then .error (outOfRangeAt d ctx (toString n ++ " is out of the safe float64 range"))
    else .ok (Binary64.ofInt n)
  | _ => .error (wrongKind d ctx "float" v)

def flagOf : FieldReader Bool := fun d ctx v =>
  match v with
  | .bool b => .ok b
  | _ => .error (wrongKind d ctx "boolean" v)

def textsOf : FieldReader (List String) := fun d ctx v =>
  match v with
  | .array items => items.mapM (textOf d ctx)
  | .tables ts => ts.mapM fun t => textOf d ctx (.table t)
  | _ => .error (wrongKind d ctx "slice" v)

/-- A field of a record of type `σ`: its name and how a value at a key sets it. -/
structure Field (σ : Type) where
  name : String
  set : Document → Key → Value → σ → Reading σ

def Field.of (name : String) (r : FieldReader α) (put : σ → α → σ) : Field σ :=
  ⟨name, fun d ctx v s => do pure (put s (← (r d ctx v : Except String α)))⟩

/-- The field a key sets: the one of its name, else the first of its name
with case folded. -/
def fieldFor (fields : List (Field σ)) (key : String) : Option (Field σ) :=
  (fields.find? (·.name = key)).orElse fun _ => fields.find? (Text.equalFold ·.name key)

def recordOf (typ : String) (fields : List (Field σ)) (d : Document) (ctx : Key) (v : Value) (init : σ) :
    Reading σ := do
  match v with
  | .table t =>
    t.foldlM (fun s (k, x) => do
      match fieldFor fields k with
      | some f => do
        modify (· ++ [ctx ++ [k]])
        f.set d (ctx ++ [k]) x s
      | none => pure s) init
  | _ => throw (unfitAt d ctx ("type mismatch for " ++ typ ++ ": expected table but found " ++ v.typeName))

def Field.record (name typ : String) (fields : List (Field τ)) (get : σ → τ) (put : σ → τ → σ) : Field σ :=
  ⟨name, fun d ctx v s => do pure (put s (← recordOf typ fields d ctx v (get s)))⟩

def factoryFields : List (Field FactoryConfig) :=
  [.of "StableAsset" textOf fun r x => { r with stableAsset := x },
    .of "StableDecimals" (unsignedOf 16 "uint16") fun r x => { r with stableDecimals := x },
    .of "OracleMaxAgeSeconds" (unsignedOf 64 "uint64") fun r x => { r with oracleMaxAgeSeconds := x }]

def custodyFields : List (Field CustodyConfig) :=
  [.of "KeystorePath" textOf fun r x => { r with keystorePath := x },
    .of "PassphraseEnv" textOf fun r x => { r with passphraseEnv := x }]

def authFields : List (Field AuthConfig) :=
  [.of "HMACSecret" textOf fun r x => { r with hmacSecret := x },
    .of "HMACSecretEnv" textOf fun r x => { r with hmacSecretEnv := x },
    .of "Issuer" textOf fun r x => { r with issuer := x },
    .of "Audience" textOf fun r x => { r with audience := x },
    .of "ClockSkewSeconds" (unsignedOf 32 "uint32") fun r x => { r with clockSkewSeconds := x }]

def rateLimitFields : List (Field RateLimitConfig) :=
  [.of "RequestsPerMinute" floatOf fun r x => { r with requestsPerMinute := x },
    .of "Burst" signedOf fun r x => { r with burst := x }]

def logFileFields : List (Field LogFileConfig) :=
  [.of "Path" textOf fun r x => { r with path := x },
    .of "MaxSizeMB" signedOf fun r x => { r with maxSizeMB := x },
    .of "MaxBackups" signedOf fun r x => { r with maxBackups := x },
    .of "MaxAgeDays" signedOf fun r x => { r with maxAgeDays := x },
    .of "Compress" flagOf fun r x => { r with compress := x }]

def telemetryFields : List (Field TelemetryConfig) :=
  [.of "Endpoint" textOf fun r x => { r with endpoint := x },
    .of "Insecure" flagOf fun r x => { r with insecure := x },
    .of "Headers" textOf fun r x => { r with headers := x },
    .of "Traces" flagOf fun r x => { r with traces := x },
    .of "Metrics" flagOf fun r x => { r with metrics := x },
    .of "SampleRatio" floatOf fun r x => { r with sampleRatio := x }]

def fields : List (Field Config) :=
  [.of "ListenAddress" textOf fun r x => { r with listenAddress := x },
    .of "DataDir" textOf fun r x => { r with dataDir := x },
    .of "AuditDSN" textOf fun r x => { r with auditDsn := x },
    .of "IdempotencyPath" textOf fun r x => { r with idempotencyPath := x },
    .of "IdempotencyTTLHours" (unsignedOf 32 "uint32") fun r x => { r with idempotencyTtlHours := x },
    .of "ManifestPath" textOf fun r x => { r with manifestPath := x },
    .of "Environment" textOf fun r x => { r with environment := x },
    .of "LogLevel" textOf fun r x => { r with logLevel := x },
    .of "Admins" textsOf fun r x => { r with admins := x },
    .record "factory" "config.FactoryConfig" factoryFields (·.factory) fun r x => { r with factory := x },
    .record "custody" "config.CustodyConfig" custodyFields (·.custody) fun r x => { r with custody := x },
    .record "auth" "config.AuthConfig" authFields (·.auth) fun r x => { r with auth := x },
    .record "rate_limit" "config.RateLimitConfig" rateLimitFields (·.rateLimit) fun r x => { r with rateLimit := x },
    .record "log_file" "config.LogFileConfig" logFileFields (·.logFile) fun r x => { r with logFile := x },
    .record "telemetry" "config.TelemetryConfig" telemetryFields (·.telemetry) fun r x => { r with telemetry := x }]

/-- A configuration from a document, and the first key it did not use. -/
def ofDocument (d : Document) : Except String (Config × Option Key) := do
  let (c, used) ← (recordOf "config.Config" fields d [] (.table d.root) {}).run []
  let usedText := used.map Key.text
  pure (c, d.keys.find? fun k => !usedText.contains (Key.text k))

end Issuance.Config
