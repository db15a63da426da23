import Issuance.Text.Blank
/-! # Telemetry setup

A non-blank service name is needed; the resource carries it, the
environment and the extra attributes in key order. Traces and metrics are
exported only when asked. -/
namespace Issuance.Telemetry

structure Setup where
  serviceName : String
  environment : String := ""
  endpoint : String := ""
  traces : Bool := false
  metrics : Bool := false
  metricIntervalSeconds : Int := 0
  attributes : List (String × String) := []
  deriving DecidableEq, Repr

structure Installed where
  resource : List (String × String)
  endpoint : String
  traces : Bool
  metricIntervalSeconds : Option Int
  propagatorFields : List String
  deriving DecidableEq, Repr

def defaultEndpoint : String := "localhost:4318"

def propagatorFields : List String := ["baggage", "traceparent", "tracestate"]

def insertKey (k : String) : List String → List String
  | [] => [k]
  | x :: xs => if k ≤ x then k :: x :: xs else x :: insertKey k xs

/-- The resource of a setup: service, environment, then the extra
attributes in the order of their keys. -/
def resourceOf (s : Setup) : List (String × String) :=
  let keys := ((s.attributes.map (·.1)).filter fun k => !Text.isBlankText k).foldr insertKey []
  let value (k : String) : String := ((s.attributes.reverse.find? (·.1 == k)).map (·.2)).getD ""
  [("service.name", s.serviceName)] ++
    (if s.environment.isEmpty then [] else [("deployment.environment", s.environment)]) ++
    keys.map fun k => (Text.trim k, value k)

def init (s : Setup) : Except String Installed :=
  if Text.isBlankText s.serviceName then .error "service name required for telemetry" else
  .ok {
    resource := resourceOf s
    endpoint := if s.endpoint.isEmpty then defaultEndpoint else s.endpoint
    traces := s.traces
    metricIntervalSeconds :=
      if s.metrics then some (if s.metricIntervalSeconds ≤ 0 then 15 else s.metricIntervalSeconds) else none
    propagatorFields := propagatorFields }

theorem init_blank (s : Setup) (h : Text.isBlankText s.serviceName = true) :
    init s = .error "service name required for telemetry" := by
  simp [init, h]

end Issuance.Telemetry
