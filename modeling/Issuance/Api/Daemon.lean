import Issuance.Daemon.Report
import Issuance.Api.Config
/-! # Running the daemon as answered

The daemon runs in a fresh directory holding `factoryd.toml` and the files
it names, then, if asked, the export command. Entries may first be planted
in the state database and the response cache; `{{LISTEN}}` stands for a
free local address. -/
namespace Issuance.Api

def listenPlaceholder : String := "\x7b\x7bLISTEN\x7d\x7d"

def freeAddress : String := "127.0.0.1:47080"

def runClock : Int := 1767225600

def daemonFiles (j : Json) (fill : String → String) : Read Files := do
  let config : List (String × String) ← match member j "config" with
    | .null => pure []
    | .str t => pure [(configFileName, fill t)]
    | _ => throw "field config must be a string or null"
  let given ← textMembers j "files"
  let all := config ++ given.map fun (p, t) => (p, fill t)
  pure (all.foldl (fun (fs : Files) (e : String × String) => fs.withFile e.1 e.2) {})

def daemonSetting (j : Json) : Read Daemon.Setting := do
  let fill := fun (t : String) => t.replace listenPlaceholder freeAddress
  let files ← daemonFiles j fill
  let env ← environmentOf j
  let args ← if j.has "args" then strs j "args" else pure ["-config", configFileName]
  let stateSeed ← textMembers j "state_seed"
  let statePath := "data/state"
  let cacheSeed ← textMembers j "idem_seed"
  let cachePath ← strOr j "idem_path" "data/idempotency.db"
  let files := if stateSeed.isEmpty then files else files.withDir statePath
  let files := if cacheSeed.isEmpty then files else files.withFile cachePath ""
  let planted := stateSeed.map fun (k, v) => (Bytes.ofString k, Bytes.ofString v)
  pure { args := args, files := files, env := env, now := runClock
         stateSeed := if stateSeed.isEmpty then none else some (statePath, planted)
         cacheSeed := if cacheSeed.isEmpty then none else some (cachePath, cacheSeed) }

def reportJson (o : Daemon.Report.Outcome) : Json :=
  obj [("exit_code", .int o.code), ("stdout", o.report.getD (.str "")),
    ("stderr", .arr (o.stderr.map .str))]

def daemonAnswer (j : Json) : Read Json := do
  let s ← daemonSetting j
  let e := Daemon.run s
  let audit ← if j.has "audit_args" then do
      let args ← strs j "audit_args"
      pure [("audit", reportJson (Daemon.Report.run e.world runClock args))]
    else pure []
  let answer := obj ([("listening", .bool false), ("exit_code", .int e.code), ("log", .arr e.log),
    ("stderr", .arr (e.stderr.map .str))] ++ audit)
  pure (answer.mapStrings fun t => t.replace freeAddress listenPlaceholder)

end Issuance.Api
