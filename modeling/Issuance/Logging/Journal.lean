import Issuance.Logging.Setup
import Issuance.Json
/-! # Log lines with typed fields

A record at or above the threshold is one JSON object with severity,
message, service, environment and typed fields; without JSON, one text line
with `key=value` fields, quoted where needed. -/
namespace Issuance.Logging

def Logger.entry (lg : Logger) (level : Level) (message : String) (fields : List (String × Json)) :
    Option Json :=
  if level.rank < lg.threshold.rank then none else
  some (.obj ([("severity", .str level.name), ("message", .str message), ("service", .str lg.service)] ++
    (if lg.env.isEmpty then [] else [("env", .str lg.env)]) ++ fields))

def needsQuotes (v : String) : Bool :=
  v.isEmpty || v.any fun c =>
    if c.toNat < 0x80 then c = ' ' || c = '=' || c = '"' || c.toNat < 0x20 || c.toNat = 0x7F
    else c.toNat = 0xFFFD || !Text.isPrintable c

def textValue (v : String) : String := if needsQuotes v then Text.quoted v else v

def textLine (level : Level) (message : String) (fields : List (String × String)) : String :=
  level.name ++ " " ++ message ++ String.join (fields.map fun (k, v) => " " ++ k ++ "=" ++ textValue v)

theorem Logger.entry_below (lg : Logger) (level : Level) (message : String) (fields : List (String × Json))
    (h : level.rank < lg.threshold.rank) : lg.entry level message fields = none := by
  simp [Logger.entry, h]

end Issuance.Logging
