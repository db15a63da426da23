import Issuance.Daemon.Start
/-! # Exporting the audit log

The export command writes the records of a window, ending at `-until` and
lasting `-window`, to a CSV and a columnar file and prints a report; a
failure is one line on standard error and status 1. -/
namespace Issuance.Daemon.Report

open Api Service Text

def programName : String := "factory-audit"

def day : Int := 24 * 3600 * 1000000000

def flags : List Command.Flag :=
  [⟨"config", .text "./factoryd.toml", "Path to factoryd configuration file"⟩,
    ⟨"out", .text "./audit-reports", "Directory receiving the CSV and Parquet reports"⟩,
    ⟨"window", .span day, "Length of the exported window ending at -until"⟩,
    ⟨"until", .text "", "RFC3339 end of the window (default now)"⟩]

/-- How an export ended: its status, the report it printed, and what it
wrote to standard error. -/
structure Outcome where
  code : Int
  report : Option Json
  stderr : List String

def yearOutOfRange : String :=
  "failed to encode report: json: error calling MarshalJSON for type time.Time: " ++
    "Time.MarshalJSON: year outside of range [0,9999]"

def printable (t : Instant) : Bool := 0 ≤ t.year && t.year ≤ 9999

def reportJson (x : Export) : Json :=
  .obj [("start", .str x.start.rfc3339Nano), ("end", .str x.stop.rfc3339Nano), ("count", .nat x.count),
    ("csvPath", .str x.csvPath), ("parquetPath", .str x.parquetPath)]

def writtenLine (x : Export) : String :=
  Logging.textLine .info "audit export written"
    [("component", "audit"), ("records", toString x.count), ("csv", x.csvPath), ("parquet", x.parquetPath)]

def run (w : World) (now : Int) (args : List String) : Outcome :=
  let failed := fun (m : String) => (⟨1, none, [m]⟩ : Outcome)
  match Command.readCommandLine flags args with
  | .help => ⟨0, none, Command.usageLines programName flags⟩
  | .stopped reason => ⟨2, none, reason :: Command.usageLines programName flags⟩
  | .values vs =>
    match Config.load w.files (Command.textValue vs "config") with
    | .error e => failed ("failed to load config: " ++ e)
    | .ok cfg =>
      let untilText := Command.textValue vs "until"
      let stop : Except String Instant := if untilText.isEmpty then .ok ⟨now, 0⟩ else parseRfc3339 untilText
      match stop with
      | .error e => failed ("invalid -until: " ++ e)
      | .ok stop =>
        match openAudit w cfg.auditDsn with
        | .error e => failed ("failed to open audit log: " ++ e)
        | .ok (log, w) =>
          let start := stop.shift (-Command.spanValue vs "window")
          match log.export w.files (Command.textValue vs "out") start stop with
          | .error e => failed ("failed to export audit log: " ++ e)
          | .ok (x, _) =>
            if printable x.start && printable x.stop then ⟨0, some (reportJson x), [writtenLine x]⟩
            else ⟨1, none, [writtenLine x, yearOutOfRange]⟩

end Issuance.Daemon.Report
