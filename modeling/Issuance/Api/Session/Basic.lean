import Issuance.Api.View
import Issuance.Api.Request
import Issuance.Service.Server
/-! # Sessions

A script of steps against one engine and database, with a clock only the
script moves. Each step answers alone: a result with its events, a library
failure or a malformed step. A failed operation changes nothing. -/
namespace Issuance.Api

/-- A script's live state: engine, database, clocks, fresh identifiers,
event reporting, the service and the named hub subscriptions. -/
structure Session where
  engine : Engine
  db : Store.Database
  now : Int
  wall : Int := 0
  serial : Nat := 0
  emitting : Bool := true
  stack : Option Service.Stack := none
  subscriptions : List (String × Nat) := []

/-- What one step answers: a result and its events, a failure, a failure
after changes that were committed with their events, or a malformed step. -/
inductive Outcome
  | done (result : Json) (events : List Event)
  | failed (f : Fault)
  | stopped (f : Fault) (events : List Event)
  | malformed (message : String)

def Outcome.toJson : Outcome → Json
  | .done r evs => obj [("ok", r), ("events", .arr (evs.map eventJson))]
  | .failed f => obj [("error", .str f.code.name), ("message", .str f.message), ("events", .arr [])]
  | .stopped f evs => obj [("error", .str f.code.name), ("message", .str f.message),
      ("events", .arr (evs.map eventJson))]
  | .malformed m => badRequest m

def Outcome.events : Outcome → List Event
  | .done _ evs | .stopped _ evs => evs
  | .failed _ | .malformed _ => []

def Outcome.quiet (r : Json) : Outcome := .done r []

/-- The empty object, the result of a step that returns nothing. -/
def nothing : Json := obj []

namespace Session

def fresh (s : Session) : String :=
  "00000000-0000-4000-8000-" ++ Text.hexDigits 12 s.serial

def context (s : Session) : Context := ⟨s.now, s.fresh, true⟩

def advanceBy (s : Session) (n : Nat) : Session := { s with serial := s.serial + n }

def advanceSerial (s : Session) : Session := s.advanceBy 1

/-- Run a change as one transaction; on success keep its writes and report
its events if events are on. -/
def commit (s : Session) (op : Store.Txn (α × List Event)) (view : α → Json) : Session × Outcome :=
  match runAtomic s.db op with
  | .ok (a, evs, db) => ({ s with db := db }, .done (view a) (if s.emitting then evs else []))
  | .error f => (s, .failed f)

def change (s : Session) (op : Store.Txn α) (view : α → Json) : Session × Outcome :=
  s.commit (do pure ((← op), [])) view

def query (s : Session) (op : Store.Txn α) (view : α → Json) : Session × Outcome :=
  match runView s.db op with
  | .ok a => (s, .quiet (view a))
  | .error f => (s, .failed f)

def admin (s : Session) (caller : Address) (op : Store.Txn (α × List Event)) (view : α → Json) :
    Session × Outcome :=
  match s.engine.authorize caller with
  | .error f => (s, .failed f)
  | .ok () => s.commit op view

end Session

def keyOf (j : Json) (textName hexName : String) : Read Bytes := do
  if j.has hexName then
    match Text.ofHex (← str j hexName) with
    | .ok b => pure b
    | .error e => throw ("key_hex: " ++ e.message)
  else pure (Bytes.ofString (← str j textName))

def key (j : Json) : Read Bytes := keyOf j "key" "key_hex"

/-- The channel a step names: by its base58 `channel`, else derived from
`path` for `kind`. A malformed identifier fails the step. -/
def channelOf (kind : Kind) (j : Json) : Read (Except Fault ChannelId) := do
  if (j.field? "channel").isSome then pure (ChannelId.parse (← str j "channel"))
  else pure (.ok (ChannelId.derive kind (Text.trim (← str j "path"))))

def faultRuleOf (i : Nat) : Json → Read Store.FaultRule
  | j@(.obj _) => do
    let m ← str j "method"
    let method ← match m with
      | "get" => pure Store.Method.get
      | "keys" => pure .keys
      | "write" => pure .write
      | _ => throw ("unknown fault method " ++ Text.quoted m)
    pure ⟨method, ← keyOf j "prefix" "prefix_hex"⟩
  | _ => throw ("fault " ++ toString i ++ " must be an object")

def faultRules (j : Json) : Read (List Store.FaultRule) :=
  match member j "faults" with
  | .null => pure []
  | .arr xs => (xs.zipIdx.mapM fun (x, i) => faultRuleOf i x)
  | _ => throw "field faults must be a list"

end Issuance.Api
