import Issuance.Logging.Redact
/-! # Structured log lines

One JSON object per record at or above the threshold: severity, message,
service and environment when given, then the fields; a later field replaces
one of the same name. Plain logger lines are `info` records. -/
namespace Issuance.Logging

/-- A logger: the service, the environment and the threshold. -/
structure Logger where
  service : String
  env : String
  threshold : Level
  deriving DecidableEq, Repr

def Logger.setup (service env : String) (threshold : Level) : Logger :=
  ⟨Text.trim service, Text.trim env, threshold⟩

/-- A record: its severity, message and fields in order. -/
structure Record where
  level : Level
  message : String
  fields : List (String × String)
  deriving DecidableEq, Repr

def renameField (f : String × String) : String × String :=
  match f.1 with
  | "time" => ("timestamp", f.2)
  | "level" => ("severity", Text.upperCase f.2)
  | "msg" => ("message", f.2)
  | _ => f

/-- Put a field into an object, replacing one of the same name. -/
def putField (obj : List (String × String)) (f : String × String) : List (String × String) :=
  if obj.any (·.1 == f.1) then obj.map fun g => if g.1 == f.1 then f else g else obj ++ [f]

def Logger.line (lg : Logger) (r : Record) : Option (List (String × String)) :=
  if r.level.rank < lg.threshold.rank then none else
  let head := [("severity", r.level.name), ("message", r.message), ("service", lg.service)] ++
    (if lg.env.isEmpty then [] else [("env", lg.env)])
  let line := (r.fields.map renameField).foldl putField head
  some (line.filter (·.1 != "timestamp"))

def plainRecord (text : String) : Record :=
  ⟨.info, if text.endsWith "\n" then String.ofList text.toList.dropLast else text, []⟩

def maskFields (fs : List (String × String)) : List (String × String) :=
  fs.map fun (k, v) => (k, maskField k v)

def Logger.lines (lg : Logger) (records : List Record) (plain : List String) :
    List (List (String × String)) :=
  (records ++ plain.map plainRecord).filterMap lg.line

theorem Logger.line_below (lg : Logger) (r : Record) (h : r.level.rank < lg.threshold.rank) :
    lg.line r = none := by
  simp [Logger.line, h]

end Issuance.Logging
