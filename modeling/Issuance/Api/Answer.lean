import Issuance.Api.Pure
import Issuance.Api.Session.Run
import Issuance.Api.Observe
import Issuance.Api.Daemon
/-! # One request, one answer

A request line is a JSON object whose `op` names the operation; the answer is
one JSON line. -/
namespace Issuance.Api

/-- The answer of a request that needs state, or `none` for another `op`. -/
def stateAnswer (wall : Int) (op : String) (j : Json) : Option (Read Json) :=
  match op with
  | "session" => some (sessionAnswer wall j)
  | "engine_new" => some (engineAnswer j)
  | "manifest_load" => some (manifestAnswer j)
  | "config_load" => some (configAnswer j)
  | "idempotency_open" => some (cacheOpenAnswer j)
  | "audit_open" => some (auditOpenAnswer j)
  | "factoryd" => some (daemonAnswer j)
  | _ => none

def answer (wall : Int) (j : Json) : Json :=
  match str j "op" with
  | .error e => badRequest e
  | .ok op =>
    match pureAnswer op j <|> custodyAnswer op j <|> observeAnswer op j <|> stateAnswer wall op j with
    | some r => match r with
      | .ok a => a
      | .error e => badRequest e
    | none => badRequest ("unknown op " ++ Text.quoted op)

def answerLine (wall : Int) (line : String) : String :=
  match Json.parse line with
  | .ok j => (answer wall j).compact
  | .error e => (badRequest e.message).compact

end Issuance.Api
