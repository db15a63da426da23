import Issuance.Api.Session.Bootstrap
import Issuance.Api.Session.Serving
import Issuance.Api.Custody
import Issuance.Command.Flags
import Issuance.Config.Load
import Issuance.Logging.Journal
import Issuance.Telemetry
/-! # Starting the daemon

Flags, configuration and log, then in order telemetry, administrators,
custody key, state database, engine, audit database and cache; the engine
is provisioned with the custody key as signer, the manifest applied and the
service listens. The first failure ends the run with status 1. -/
namespace Issuance.Daemon

open Api Service

/-- What a run starts from: command line, files, environment, a state
database, a response cache file, and the clock. -/
structure Setting where
  args : List String
  files : Files
  env : List (String × String)
  stateSeed : Option (String × List (Bytes × Bytes)) := none
  cacheSeed : Option (String × List (String × String)) := none
  now : Int

/-- What a run leaves behind: its files, and the audit databases written,
by path. -/
structure World where
  files : Files
  databases : List (String × AuditLog) := []

/-- How a run ended early: a bad command line (its status and what it
printed), a failure before the log was set up, or one after. -/
inductive Stop
  | usage (code : Int) (lines : List String)
  | early (message : String)
  | fatal (message : String)

/-- A run so far: the logger once set up, the lines logged, the trace
exporter's report, whether the engine has begun work, and the world. -/
structure Trace where
  logger : Option Logging.Logger := none
  log : List Json := []
  exportReport : Option String := none
  traced : Bool := false
  world : World

abbrev Boot := ExceptT Stop (StateM Trace)

def programName : String := "factoryd"

def flags : List Command.Flag := [⟨"config", .text "./factoryd.toml", "path to factoryd config"⟩]

def say (level : Logging.Level) (message : String) (fields : List (String × Json)) : Boot Unit :=
  modify fun t => match t.logger with
    | some lg => { t with log := t.log ++ (lg.entry level message fields).toList }
    | none => t

def fail (message : String) : Boot α := throw (.fatal message)

def currentFiles : Boot Files := do pure (← get).world.files

def alter (f : World → World) : Boot Unit := modify fun t => { t with world := f t.world }

/-- Open the audit database at a store name: the log already written
there, or a new one, with the world after; or why not. -/
def openAudit (w : World) (dsn : String) : Except String (AuditLog × World) := do
  let path := Text.trim dsn
  if path.isEmpty then throw "audit: dsn required"
  let known := fun p => w.databases.any fun (q, _) => Files.samePath q p
  match ← Sql.openForAudit w.files known path with
  | .file p _ =>
    match w.databases.find? fun (q, _) => Files.samePath q p with
    | some (_, log) => pure (log, w)
    | none =>
      if (w.files.lookup p) matches .missing then
        pure ({}, { w with files := w.files.withFile p "", databases := w.databases ++ [(p, {})] })
      else pure ({}, { w with databases := w.databases ++ [(p, {})] })
  | _ => pure ({}, w)

/-- The world with the audit database at a path replaced. -/
def World.keepAudit (w : World) (path : String) (log : AuditLog) : World :=
  { w with databases := (w.databases.filter fun (p, _) => !Files.samePath p path) ++ [(path, log)] }

def openCache (s : Setting) (fs : Files) (path : String) (ttl : Int) : Except String (Cache × Files) :=
  if Text.isBlankText path then .error "idempotency: path required" else
  let seeded := match s.cacheSeed with
    | some (p, es) => if Files.samePath p path then es else []
    | none => []
  let cache := Cache.withTtl ttl seeded
  match fs.lookup path with
  | .throughFile => .error ("open " ++ path ++ ": not a directory")
  | .directory => .error ("open " ++ path ++ ": is a directory")
  | .file _ => .ok (cache, fs)
  | .missing =>
    if fs.parentThere path then .ok (cache, fs.withFile path "")
    else .error ("open " ++ path ++ ": no such file or directory")

/-- The state database under the data directory, created when missing. -/
def openState (s : Setting) (fs : Files) (path : String) : Except String (Store.Store × Files) :=
  let seeded : Store.Store := match s.stateSeed with
    | some (p, es) => if Files.samePath p path then es.foldl (fun st (k, v) => st.put k v) {} else {}
    | none => {}
  match fs.lookup path with
  | .throughFile => .error ("stat " ++ path ++ ": not a directory")
  | .file _ => .error ("leveldb/storage: open " ++ path ++ ": not a directory")
  | .directory => .ok (seeded, fs)
  | .missing => .ok (seeded, fs.withDir path)

def readManifest (fs : Files) (path : String) : Except String Manifest :=
  match fs.lookup path with
  | .missing => .error ("manifest: stat " ++ path ++ ": no such file or directory")
  | .throughFile => .error ("manifest: stat " ++ path ++ ": not a directory")
  | .directory => .error ("decode manifest: read " ++ path ++ ": is a directory")
  | .file text => Manifest.parse text

def refreshGauges (db : Store.Database) (now : Int) : Except Fault Unit := do
  let _ ← runView db (Engine.listMintChannels now)
  let _ ← runView db (Engine.listBurnChannels now)
  pure ()

abbrev Line := Logging.Level × String × List (String × Json)

def gaugeLines (channel : String) (read : ChannelId → Except Fault Unit) (what : String) : List Line :=
  match ChannelId.parse channel with
  | .error _ => []
  | .ok id =>
    match read id with
    | .ok () => []
    | .error f =>
      [(.debug, what ++ " channel gauge skipped",
        [("component", .str "reporter"), ("channel", .str channel), ("error", .str f.message)])]

/-- What the reporter logs on seeing an event, over the database as it
stood once the event's change was committed. -/
def reporterLines (now : Int) (db : Store.Database) : Event → List Line
  | .appConfigSet .. =>
    match refreshGauges db now with
    | .ok () => []
    | .error f => [(.warn, "refresh channel gauges", [("component", .str "reporter"), ("error", .str f.message)])]
  | .mintChannelCreated c .. | .mintChannelSet c .. | .minted _ c .. =>
    gaugeLines c (fun id => (runView db (Engine.getMintChannel now id)).map fun _ => ()) "mint"
  | .burnChannelCreated c .. | .burnChannelSet c .. | .burned _ c .. =>
    gaugeLines c (fun id => (runView db (Engine.getBurnChannel now id)).map fun _ => ()) "burn"
  | _ => []

def engineLine : Event → Option (String × List (String × Json))
  | .appConfigSet h _ true => some ("app config created", [("rollingPeriodHours", .nat h)])
  | .appConfigSet h _ false => some ("app config updated", [("rollingPeriodHours", .nat h)])
  | .mintChannelCreated c p _ => some ("mint channel created", [("channel", .str c), ("path", .str (Text.trim p))])
  | .mintChannelSet c a assets .. =>
    some ("mint channel configured", [("channel", .str c), ("active", .bool a), ("legs", .nat assets.length)])
  | .burnChannelCreated c p => some ("burn channel created", [("channel", .str c), ("path", .str (Text.trim p))])
  | .burnChannelSet c a o .. =>
    some ("burn channel configured", [("channel", .str c), ("active", .bool a), ("output", .str o)])
  | .feeWithdrawn _ _ asset n => some ("custody withdrawal", [("asset", .str asset), ("amount", .nat n)])
  | .custodyReleased a _ => some ("asset custody released", [("asset", .str a)])
  | _ => none

def replay (now : Int) (auditPath : String) : Happening → Boot Unit
  | .committed e db => do
    alter fun w =>
      let log := ((w.databases.find? fun (p, _) => Files.samePath p auditPath).map (·.2)).getD {}
      w.keepAudit auditPath (log.append now e)
    for (l, m, fs) in reporterLines now db e do say l m fs
    match engineLine e with
    | some (m, fs) => say .info m fs
    | none => pure ()
  | .refused op f =>
    if f.code = .internal then say .error "factory operation failed" [("op", .str op), ("error", .str f.message)]
    else say .debug "factory operation rejected"
      [("op", .str op), ("code", .str f.code.name), ("error", .str f.message)]
  | .logged l m fs => say l m fs

/-- Provision the engine: the settings and the stable asset when missing,
then the manifest at `manifestPath` when one is named. -/
def provision (fs : Files) (operator custody : Address) (manifestPath : String) : Chain Unit := do
  let _ ← Chain.within "app config" (ensureAppConfig operator custody)
  Chain.within "stable asset" (ensureStableAsset operator)
  if Text.isBlankText manifestPath then return
  match readManifest fs manifestPath with
  | .error m => Chain.fail (Fault.plain m)
  | .ok m =>
    let t ← Chain.within "apply manifest" (applyManifest operator m)
    Chain.note .info "manifest applied" [("created", .nat t.created.length), ("skipped", .nat t.skipped.length)]

/-- The address a connection to an endpoint dials: the local host name
stands for the IPv4 loopback address. -/
def dialedAddress (endpoint : String) : String :=
  match endpoint.splitOn ":" with
  | ["localhost", port] => "127.0.0.1:" ++ port
  | _ => endpoint

def exportFailure (endpoint : String) (insecure : Bool) : String :=
  let ep := if endpoint.isEmpty then Telemetry.defaultEndpoint else endpoint
  "traces export: Post \"" ++ (if insecure then "http://" else "https://") ++ ep ++
    "/v1/traces\": dial tcp " ++ dialedAddress ep ++ ": connect: network is unreachable"

def start (s : Setting) : Boot Unit := do
  let vs ← match Command.readCommandLine flags s.args with
    | .values vs => pure vs
    | .help => throw (.usage 0 (Command.usageLines programName flags))
    | .stopped reason => throw (.usage 2 (reason :: Command.usageLines programName flags))
  let cfgPath := Command.textValue vs "config"
  let cfg ← match Config.load (← currentFiles) cfgPath with
    | .ok c => pure c
    | .error e => throw (.early ("load config: " ++ e))
  modify fun t => { t with logger := some (Logging.Logger.setup programName cfg.environment
    (Logging.Level.parse cfg.logLevel)) }
  say .info "factoryd starting"
    [("listen", .str (Logging.maskField "listen" cfg.listenAddress)),
      ("audit_dsn", .str (Logging.maskDsn cfg.auditDsn)),
      ("jwt_secret_env", .str (Logging.maskField "jwt_secret_env" cfg.auth.hmacSecretEnv)),
      ("keystore", .str (Logging.maskField "keystore" cfg.custody.keystorePath))]
  if cfg.telemetry.traces || cfg.telemetry.metrics then
    let setup : Telemetry.Setup :=
      { serviceName := programName, environment := cfg.environment, endpoint := cfg.telemetry.endpoint
        traces := cfg.telemetry.traces, metrics := cfg.telemetry.metrics
        attributes := [("factory.stable_asset", cfg.factory.stableAsset)] }
    match Telemetry.init setup with
    | .ok _ =>
      if cfg.telemetry.traces then
        let report := exportFailure cfg.telemetry.endpoint cfg.telemetry.insecure
        modify fun t => { t with exportReport := some report }
    | .error e => fail ("init telemetry: " ++ e)
  let admins ← match cfg.adminAddresses with
    | .ok as => pure as
    | .error e => fail e
  let some operator := admins.head? | fail "at least one admin address required"
  let keystorePath := cfg.custody.keystorePath
  let confirm := (← currentFiles).lookup keystorePath = .missing
  let varName := Text.trim cfg.custody.passphraseEnv
  let source : Passphrase.Source := ⟨varName, confirm⟩
  let secret ← match (Passphrase.resolve source (s.env.lookup varName) ⟨false, [], ""⟩).1 with
    | .ok v => pure v
    | .error e => fail e.message
  let (key, created) ← match Keystore.loadOrCreate (← currentFiles) keystorePath secret {} freshKey with
    | .ok r => pure r
    | .error h => fail ("custody keystore: " ++ h.message)
  let custody := key.address
  if created then
    alter fun w => { w with files := w.files.withFile keystorePath "" }
    say .info "generated custody key" [("keystore", .str keystorePath), ("address", .str custody.toText)]
  let statePath := Text.Path.join [cfg.dataDir, "state"]
  let store ← match openState s (← currentFiles) statePath with
    | .ok (st, fs) => do alter (fun w => { w with files := fs }); pure st
    | .error e => fail ("open state: " ++ e)
  let engine ← match Engine.make true true (Admins.ofList admins) cfg.factory.stableAsset
      cfg.factory.stableDecimals cfg.factory.oracleMaxAgeSeconds with
    | .ok e => pure e
    | .error f => fail f.message
  let auditPath := Text.trim cfg.auditDsn
  match openAudit (← get).world cfg.auditDsn with
  | .ok (_, w) => alter fun _ => w
  | .error e => fail e
  let cache ← match openCache s (← currentFiles) cfg.idempotencyPath (cfg.idempotencyTtlHours * 3600) with
    | .ok (c, fs) => do alter (fun w => { w with files := fs }); pure c
    | .error e => fail ("open idempotency store: " ++ e)
  match cache.prune s.now with
  | .ok (n, _) => if n > 0 then say .info "pruned expired idempotency entries" [("removed", .nat n)]
  | .error e => say .warn "prune idempotency store" [("error", .str e)]
  if operator.isZero then fail "bootstrap: operator address required"
  let session : Session := { engine := engine, db := { store := store, onDisk := true }, now := s.now }
  modify fun t => { t with traced := true }
  let (failed, db, trail) := match provision (← currentFiles) operator custody cfg.manifestPath (session, []) with
    | .ok () (s', hs) => (none, s'.db, hs)
    | .error f (s', hs) => (some f, s'.db, hs)
  for h in trail do replay s.now auditPath h
  if let some f := failed then fail f.message
  match refreshGauges db s.now with
  | .ok () => pure ()
  | .error f => say .warn "initial channel gauges" [("error", .str f.message)]
  if (cfg.secret s.env).isEmpty then fail "auth: hmac secret not configured"
  let addr := if Text.isBlankText cfg.listenAddress then ":7080" else cfg.listenAddress
  say .info "http server listening" [("component", .str "server"), ("addr", .str addr)]
  if let some e := listenError addr then fail ("listen and serve: " ++ e)

/-- How a run ended: its exit status, its log lines, what it wrote to
standard error, and the world it left. -/
structure Exit where
  code : Int
  log : List Json
  stderr : List String
  world : World

def killedStatus : Int := -1

def run (s : Setting) : Exit :=
  let (r, t) := (start s).run.run { world := { files := s.files } }
  match r with
  | .ok () => ⟨killedStatus, t.log, t.exportReport.toList, t.world⟩
  | .error (.usage code lines) => ⟨code, t.log, lines, t.world⟩
  | .error (.early m) => ⟨1, t.log, [programName ++ ": " ++ m], t.world⟩
  | .error (.fatal m) =>
    let line := match t.logger with
      | some lg => (lg.entry .info (programName ++ ": " ++ m) []).toList
      | none => []
    ⟨1, t.log ++ line, if t.traced then t.exportReport.toList else [], t.world⟩

end Issuance.Daemon
