import Issuance.Api.Request
import Issuance.Api.View
import Issuance.Logging.Redact
import Issuance.Service.Limiter
/-! # Requests that need no state

Arithmetic on amounts, channel identifiers, addresses, baskets, the
administrator gate and log redaction, each answered at once. -/
namespace Issuance.Api

def amountAnswer (r : Except Fault Nat) : Json :=
  match r with
  | .ok n => obj [("result", .nat n)]
  | .error f => failure f

/-- A channel identifier as answered: base58, hex and whether it is zero. -/
def channelIdJson (c : ChannelId) : Json :=
  obj [("id", .str c.toText), ("hex", .str (Bytes.toHex c.bytes)), ("is_zero", .bool c.isZero)]

def readLegacy (j : Json) : Read LegacyBasket := do
  pure ⟨← strs j "assets", ← nats j "decimals" 16, ← nats j "weights_bps" 16, ← strs j "price_feeds"⟩

/-- Header pairs of a `k=v,k=v` text: pairs without `=` or with a blank key
are dropped, and a later key replaces an earlier one. -/
def parseHeaders (raw : String) : List (String × String) :=
  (raw.splitOn ",").foldl (fun acc pair =>
    match (Text.trim pair).splitOn "=" with
    | k :: v :: rest =>
      let k := Text.trim k
      if k.isEmpty then acc
      else (acc.filter (·.1 != k)) ++ [(k, Text.trim ("=".intercalate (v :: rest)))]
    | _ => acc) []

def sortedObj (fs : List (String × Json)) : Json :=
  .obj (fs.mergeSort fun a b => decide (a.1 ≤ b.1))

/-- Answer a request that needs no state; `none` when `op` is not one of them. -/
def pureAnswer (op : String) (j : Json) : Option (Read Json) :=
  match op with
  | "multiply_fraction" => some do
    pure (amountAnswer (Amount.mulDiv (← nat j "value" 64) (← nat j "numerator" 64) (← nat j "denominator" 64)))
  | "pow10" => some do pure (amountAnswer (Amount.pow10 (← nat j "decimals" 16)))
  | "rescale" => some do
    pure (amountAnswer (Amount.rescale (← nat j "value" 64) (← nat j "from_decimals" 16)
      (← nat j "to_decimals" 16)))
  | "checked_add" => some do pure (amountAnswer (Amount.checkedAdd (← nat j "a" 64) (← nat j "b" 64)))
  | "checked_sub" => some do pure (amountAnswer (Amount.checkedSub (← nat j "a" 64) (← nat j "b" 64)))
  | "derive_channel_id" => some do
    let kind ← str j "kind"
    pure (channelIdJson ⟨Hash.Blake3.digest (Bytes.ofString (kind ++ (← str j "path"))),
      Hash.Blake3.length_digest _⟩)
  | "parse_channel_id" => some do
    match ChannelId.parse (← str j "raw") with
    | .ok c => pure (channelIdJson c)
    | .error f => pure (failure f)
  | "legacy_basket" => some do
    match (← readLegacy j).legs with
    | .ok legs => pure (obj [("legs", .arr (legs.map legJson))])
    | .error f => pure (failure f)
  | "address_encode" => some do
    let b ← hex j "hex"
    let hrp ← strOr j "prefix" Address.accountPrefix
    if b.length = 20 then pure (obj [("address", .str (Address.bech32Of hrp b))])
    else pure (aborted "address must be 20 bytes long")
  | "address_decode" => some do
    match Address.decode (← str j "address") with
    | .ok (hrp, b) =>
      pure (obj [("prefix", .str hrp), ("hex", .str (Bytes.toHex b)),
        ("address", .str (Address.bech32Of hrp b))])
    | .error e => pure (internal e)
  | "parse_account" => some do
    match Address.parse (← str j "address") with
    | .ok a => pure (obj [("hex", .str a.toHex)])
    | .error e => pure (internal e)
  | "access_control" => some do
    let caller ← address j "caller"
    match Admins.parse (← strs j "admins") with
    | .error e => pure (internal e)
    | .ok s =>
      let gate := if (← bool j "nil") then none else some s
      let auth := match authorize gate caller with
        | .ok () => obj [("ok", .bool true)]
        | .error f => failure f
      pure (obj [("len", .nat ((gate.map Admins.size).getD 0)), ("authorize", auth)])
  | "mask_dsn" => some do pure (obj [("result", .str (Logging.maskDsn (← str j "dsn")))])
  | "mask_field" => some do
    let k ← str j "key"
    pure (obj [("key", .str k), ("value", .str (Logging.maskField k (← str j "value")))])
  | "is_allowlisted" => some do pure (obj [("result", .bool (Logging.isAllowlisted (← str j "key")))])
  | "parse_level" => some do pure (obj [("level", .str (Logging.Level.parse (← str j "level")).name)])
  | "otel_parse_headers" => some do
    pure (obj [("headers", sortedObj ((parseHeaders (← str j "raw")).map fun (k, v) => (k, .str v)))])
  | "idempotency_key" => some do
    pure (obj [("key", .str ((← str j "caller") ++ "|" ++ (← str j "method") ++ "|" ++ (← str j "path") ++
      "|" ++ Text.trim (← str j "idem")))])
  | "rate_limiter" => some do
    let rpm := match member j "requests_per_minute" with
      | .number t => (Decimal.Binary64.ofText? t).getD (Decimal.Binary64.ofInt 0)
      | _ => Decimal.Binary64.ofInt 0
    let enabled := !rpm.isNegative && !rpm.isZero
    let burst ← int j "burst"
    let ids ← strs j "ids"
    let allowed := if enabled then (Service.Limiter.make rpm burst).admits ids else ids.map fun _ => true
    pure (obj [("enabled", .bool enabled), ("allowed", .arr (allowed.map .bool))])
  | "constructors_nil" => some do
    pure (obj [("bootstrap", internal "bootstrap: engine required"), ("server", internal "server: engine required")])
  | "config_validate_nil" => some do pure (internal "config: nil configuration")
  | "audit_dialector" => some do
    let d := (Text.trim (← str j "dsn"))
    let lower := Text.lowerCase d
    let pg := lower.startsWith "postgres://" || lower.startsWith "postgresql://" ||
      (lower.splitOn "host=").length > 1
    pure (obj [("name", .str (if pg then "postgres" else "sqlite"))])
  | _ => none

end Issuance.Api
