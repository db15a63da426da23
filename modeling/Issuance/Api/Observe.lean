import Issuance.Api.Request
import Issuance.Api.Reply
import Issuance.Metrics
import Issuance.Telemetry
import Issuance.Logging.Setup
/-! # Observability requests

Metric recordings with the changes they make, telemetry setup, and the log
lines a logger writes. -/
namespace Issuance.Api

open Metrics

def callOf (c : Json) : Read Call := do
  match ← str c "call" with
  | "http_observe" => pure (.httpObserve (← str c "route") (← str c "method") (← int c "status") (← int c "ms"))
  | "throttle" => pure (.throttle (← str c "route") (← str c "reason"))
  | "engine_observe" => pure (.engineObserve (← str c "operation") (← int c "ms") (← str c "code"))
  | "limit_rejection" => pure (.limitRejection (← str c "kind"))
  | "conversion" => pure (.conversion (← str c "kind") (← str c "channel") (← nat c "stable" 64) (← nat c "fee" 64))
  | "event" => pure (.event (← str c "type"))
  | "drop" => pure (.drop (← str c "sink"))
  | "channel" =>
    pure (.channel (← str c "kind") (← str c "channel") (← bool c "active") (← nat c "lifetime_issued" 64)
      (← nat c "remaining" 64) (← nat c "accumulated_fee" 64))
  | other => throw ("unknown call " ++ Text.quoted other)

def changeJson : Change → Json
  | .counter s total => obj [("series", .str s.text), ("delta", .nat total)]
  | .histogram s count per =>
    obj [("series", .str s.text), ("count_delta", .nat count),
      ("bucket_deltas", obj (per.map fun (label, n) => (label, .nat n)))]

def metricsAnswer (j : Json) : Read Json := do
  let calls ← list j "calls" callOf
  let absent ← bool j "nil_receivers"
  let gauges := (calls.flatMap Call.gauges).map fun (s, v) =>
    if absent then obj [("series", .str s.text), ("present", .bool false)]
    else obj [("series", .str s.text), ("present", .bool true), ("value", .nat v)]
  let changes := if absent then [] else Metrics.changes calls
  pure (obj [("changes", .arr (changes.map changeJson)), ("gauges", .arr gauges)])

def otelAnswer (j : Json) : Read Json := do
  let setup : Telemetry.Setup := {
    serviceName := ← str j "service_name", environment := ← str j "environment",
    endpoint := ← str j "endpoint", traces := ← bool j "traces", metrics := ← bool j "metrics",
    metricIntervalSeconds := ← int j "metric_interval_seconds", attributes := ← textMembers j "attributes" }
  pure (match Telemetry.init setup with
    | .ok inst => obj [("ok", .bool true), ("propagator_fields", .arr (inst.propagatorFields.map .str))]
    | .error e => internal e)

def insertByName (f : String × String) : List (String × String) → List (String × String)
  | [] => [f]
  | g :: gs => if f.1 ≤ g.1 then f :: g :: gs else g :: insertByName f gs

def sortedFields (fs : List (String × String)) : List (String × String) :=
  let last := fs.foldl (fun acc f => (acc.filter (·.1 != f.1)) ++ [f]) []
  last.foldr insertByName []

def recordOf (m : Json) : Read Logging.Record := do
  let fields := sortedFields (← textMembers m "attrs")
  let fields := if ← bool m "mask" then Logging.maskFields fields else fields
  pure ⟨Logging.Level.parse (← str m "level"), ← str m "msg", fields⟩

def loggingAnswer (j : Json) : Read Json := do
  let lg := Logging.Logger.setup (← str j "service") (← str j "env") (Logging.Level.parse (← str j "level"))
  let records ← list j "messages" recordOf
  let lines := (lg.lines records (← strs j "std")).map fun fs => obj (fs.map fun (k, v) => (k, .str v))
  let toFile := !Text.isBlankText (← str (objField j "file") "path")
  pure (obj ([("lines", .arr lines)] ++ (if toFile then [("file_lines", .arr lines)] else [])))

/-- The answer of an observability request, or `none` for another `op`. -/
def observeAnswer (op : String) (j : Json) : Option (Read Json) :=
  match op with
  | "metrics" => some (metricsAnswer j)
  | "otel_init" => some (otelAnswer j)
  | "logging_setup" => some (loggingAnswer j)
  | _ => none

end Issuance.Api
