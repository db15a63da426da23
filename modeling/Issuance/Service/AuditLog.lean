import Issuance.Event
import Issuance.Sql.Exec
import Issuance.Files
import Issuance.Json.Parse
import Issuance.Text.Instant
import Issuance.Text.Path
import Issuance.Text.Uuid
/-! # The audit log

Each committed event is a record: id, type, channel, attributes as JSON and
the time written, a microsecond apart. It answers the newest records, a
window `[start, end)` oldest first, and a window as CSV. -/
namespace Issuance.Service

open Text

/-- A record as read back: its identifier, type, channel and time. -/
structure AuditEntry where
  id : String
  type : String
  channel : String
  attributes : Bytes
  createdAt : Instant
  deriving DecidableEq, Repr

def auditTable : String := "factory_events"

def auditIndexText (column : String) : String :=
  "CREATE INDEX `idx_" ++ auditTable ++ "_" ++ column ++ "` ON `" ++ auditTable ++ "`(`" ++ column ++ "`);"

/-- The statements that create the audit database: the table of records,
keyed by identifier, and then indexes on the time, the channel and the
type. -/
def auditSchema : String :=
  "CREATE TABLE `factory_events` (`id` uuid,`type` text,`channel` text,`attributes` text," ++
    "`created_at` datetime,PRIMARY KEY (`id`));" ++
    auditIndexText "created_at" ++ auditIndexText "channel" ++ auditIndexText "type"

def auditDatabase : Sql.Database := (Sql.runScript {} 0 auditSchema).1

/-- The audit log: its database, the microseconds its clock has moved, and
whether it is open. -/
structure AuditLog where
  db : Sql.Database := auditDatabase
  ticks : Nat := 0
  isOpen : Bool := true

def AuditLog.withoutTable : AuditLog := { db := {} }

def AuditLog.hasTable (log : AuditLog) : Bool :=
  (log.db.findTable none auditTable).isSome || (log.db.findView none auditTable).isSome

def closedLog : String := "sql: database is closed"

def noAuditTable : String := "SQL logic error: no such table: factory_events (1)"

def attributesText (attrs : List (String × String)) : String :=
  (Json.obj (attrs.map fun (k, v) => (k, .str v))).render true

namespace AuditLog

/-- The identifier of the record written at a tick of the log's clock: of
the random form, and different for every record the log writes. -/
def recordId (tick : Nat) : String := "00000000-0000-4000-a000-" ++ Text.hexDigits 12 tick

def writtenColumns : List String := ["id", "type", "channel", "attributes", "created_at"]

/-- Append an event written at second `now`. The clock moves even when the
log is closed, and a failed insert writes nothing. -/
def append (log : AuditLog) (now : Int) (e : Event) : AuditLog :=
  let ticks := log.ticks + 1
  let written := (Instant.mk now 0).addMicros ticks
  let channel := ((e.attributes.find? (·.1 == "channel")).map (·.2)).getD ""
  let values : List Sql.Value := [.str (recordId ticks), .str e.type, .str channel,
    .str (attributesText e.attributes), .str written.sqlText]
  let log := { log with ticks := ticks }
  if !log.isOpen then log else
  let insert := Sql.Stmt.insert none ⟨none, auditTable⟩ none (some writtenColumns)
    (some (.values [values.map .lit])) [] none
  match Sql.runStatement log.db (now * 1000) insert with
  | .ok db => { log with db := db }
  | .error _ => log

def close (log : AuditLog) : AuditLog := { log with isOpen := false }

end AuditLog

def scanError (index : Nat) (name detail : String) : String :=
  "sql: Scan error on column index " ++ toString index ++ ", name " ++ quoted name ++ ": " ++ detail

def nilUuid : String := "00000000-0000-0000-0000-000000000000"

def zeroInstant : Instant := ⟨-62135596800, 0⟩

def driverType : Sql.Value → String
  | .int _ => "int64"
  | .real _ => "float64"
  | .blob _ => "[]uint8"
  | .text _ => "string"
  | .null => "<nil>"

/-- A text column read back: no value reads as empty text, and anything
else as the text of its bytes. -/
def textColumn : Sql.Value → String
  | .null => ""
  | v => Bytes.toTextLossy v.textBytes

/-- An identifier read back: no value or empty text is the nil UUID, sixteen
bytes are the UUID itself, other bytes and text are parsed, and a number
cannot be read. -/
def idColumn (v : Sql.Value) : Except String String :=
  let parsed := fun (s : Bytes) => match Uuid.parseBytes s with
    | .ok b => .ok (Uuid.text b)
    | .error e => .error ("Scan: " ++ e)
  match v with
  | .null => .ok nilUuid
  | .text [] => .ok nilUuid
  | .text s => parsed s
  | .blob [] => .ok nilUuid
  | .blob b => if b.length = 16 then .ok (Uuid.text b) else parsed b
  | n => .error ("Scan: unable to scan type " ++ driverType n ++ " into UUID")

/-- A time read back: no value is the zero time, text is read as the
driver reads times, and anything else cannot be read. -/
def timeColumn (v : Sql.Value) : Except String Instant :=
  let unsupported := fun (ty : String) =>
    "unsupported Scan, storing driver.Value type " ++ ty ++ " into type *time.Time"
  match v with
  | .null => .ok zeroInstant
  | .text s => match Instant.ofDriverText? (Bytes.toTextLossy s) with
    | some t => .ok t
    | none => .error (unsupported "string")
  | n => .error (unsupported (driverType n))

/-- A record with no column read: every field its zero value. -/
def blankEntry : AuditEntry := ⟨nilUuid, "", "", [], zeroInstant⟩

/-- A record with one more column read into the field of its name (the
field's column name or the field's own); a column of no field is passed
over. -/
def readColumn (e : AuditEntry) (name : String) (v : Sql.Value) : Except String AuditEntry :=
  if name == "id" || name == "ID" then (idColumn v).map fun id => { e with id := id }
  else if name == "type" || name == "Type" then .ok { e with type := textColumn v }
  else if name == "channel" || name == "Channel" then .ok { e with channel := textColumn v }
  else if name == "attributes" || name == "Attributes" then .ok { e with attributes := v.textBytes }
  else if name == "created_at" || name == "CreatedAt" then (timeColumn v).map fun t => { e with createdAt := t }
  else .ok e

def entryOf (names : List String) (values : List Sql.Value) : Except String AuditEntry :=
  (names.zip values).zipIdx.foldlM (fun e ((name, v), k) =>
    match readColumn e name v with
    | .ok e => .ok e
    | .error m => .error (scanError k name m)) blankEntry

/-- Rows read back in order; every row that cannot be read adds its
failure, and the failures are joined by semicolons. -/
def readEntries (names : List String) (rs : List (List Sql.Value)) : Except String (List AuditEntry) :=
  let step := fun (acc : List AuditEntry × Option String) (r : List Sql.Value) =>
    match entryOf names r, acc with
    | .ok e, (es, err) => (es ++ [e], err)
    | .error m, (es, none) => (es, some m)
    | .error m, (es, some prev) => (es, some (prev ++ "; " ++ m))
  match rs.foldl step ([], none) with
  | (es, none) => .ok es
  | (_, some m) => .error m

/-- The attribute map of stored text: blank is empty, `null` none, else a
JSON object of texts (a `null` member empty, a later name winning). -/
def decodeAttributes (text : Bytes) : Except String (Option (List (String × String))) :=
  if isBlankText (Bytes.toTextLossy text) then .ok (some []) else
  match Json.parseBytes text with
  | .error e => .error e.message
  | .ok .null => .ok none
  | .ok (.obj fs) =>
    let step := fun (acc : List (String × String) × Option String) (m : String × Json) =>
      let (xs, err) := acc
      let put := fun (v : String) => (xs.filter (·.1 != m.1)) ++ [(m.1, v)]
      match m.2 with
      | .str s => (put s, err)
      | .null => (put "", err)
      | v => (xs, err <|> some ("json: cannot unmarshal " ++ kindName v ++ " into Go value of type string"))
    match fs.foldl step ([], none) with
    | (_, some e) => .error e
    | (xs, none) => .ok (some xs)
  | .ok v => .error ("json: cannot unmarshal " ++ kindName v ++ " into Go value of type map[string]string")
where
  kindName : Json → String
    | .null => "null"
    | .bool _ => "bool"
    | .number _ => "number"
    | .str _ => "string"
    | .arr _ => "array"
    | .obj _ => "object"

def insertText (k : String) : List String → List String
  | [] => [k]
  | x :: xs => if k = x then x :: xs else if k < x then k :: x :: xs else x :: insertText k xs

def columnIs (column : String) (v : Sql.Value) : Sql.Expr := .binary .eq (.name [column] false false) (.lit v)

def allOf : List Sql.Expr → Option Sql.Expr
  | [] => none
  | c :: cs => some (cs.foldl (fun a b => .binary .and a b) c)

def recordQuery (filter : Option Sql.Expr) (descending : Bool) (limit : Option Nat) : Sql.Query :=
  .ordered (.select false [.all] (some (.table none auditTable none)) filter [] none [])
    [(.name ["created_at"] false false, descending)] (limit.map fun n => .integer (toString n)) none

namespace AuditLog

def readQuery (log : AuditLog) (q : Sql.Query) : Except String (List AuditEntry) :=
  if !log.isOpen then .error closedLog else
  if !log.hasTable then .error noAuditTable else
  match Sql.queryRows log.db 0 q with
  | .ok (names, rows) => readEntries names rows
  | .error f => .error f.message

/-- The newest records of a type and a channel (each trimmed; blank means
any), at most `limit` of them: zero or less means a hundred, and no more
than a thousand. -/
def recent (log : AuditLog) (type channel : String) (limit : Int) : Except String (List AuditEntry) :=
  let n := if limit ≤ 0 then 100 else if limit > 1000 then 1000 else limit.toNat
  let t := trim type
  let c := trim channel
  let conds := (if t.isEmpty then [] else [columnIs "type" (.str t)]) ++
    (if c.isEmpty then [] else [columnIs "channel" (.str c)])
  log.readQuery (recordQuery (allOf conds) true (some n))

def badWindow : String := "audit: window end must be after start"

/-- The records of the window `[start, end)`, oldest first. -/
def between (log : AuditLog) (start stop : Instant) : Except String (List AuditEntry) :=
  if !start.before stop then .error badWindow else
  let conds := [.binary .ge (.name ["created_at"] false false) (.lit (.str start.sqlText)),
    .binary .lt (.name ["created_at"] false false) (.lit (.str stop.sqlText))]
  log.readQuery (recordQuery (allOf conds) false none)

end AuditLog

def csvNeedsQuotes (s : String) : Bool :=
  !s.isEmpty && (s == "\\." || s.any (fun c => c = '\n' || c = '\r' || c = '"' || c = ',') ||
    (s.toList.head?.map isBlank).getD false)

def csvField (s : String) : String :=
  if csvNeedsQuotes s then "\"" ++ String.join (s.toList.map fun c => if c = '"' then "\"\"" else c.toString) ++ "\""
  else s

def csvLine (fields : List String) : String := ",".intercalate (fields.map csvField) ++ "\n"

/-- Make a directory and its parents; a file on the way stops it. -/
def makeDirs (fs : Files) (dir : String) : Except String Files :=
  let segs := dir.splitOn "/"
  let prefixes := (List.range segs.length).map fun k => "/".intercalate (segs.take (k + 1))
  match prefixes.find? (fun p => !p.isEmpty && fs.lookup p matches .file _) with
  | some p => .error ("mkdir " ++ p ++ ": not a directory")
  | none => .ok { fs with dirs := fs.dirs ++ [dir] }

/-- What an export wrote: its window, how many records, its two files and
the CSV text. -/
structure Export where
  start : Instant
  stop : Instant
  count : Nat
  csvPath : String
  parquetPath : String
  csv : String
  deriving DecidableEq, Repr

def csvText (entries : List AuditEntry) : Except String String := do
  let decoded ← entries.mapM fun e => match decodeAttributes e.attributes with
    | .ok a => .ok (e, a.getD [])
    | .error m => .error ("audit: record " ++ e.id ++ ": " ++ m)
  let keys := decoded.foldl (fun acc (_, a) => a.foldl (fun ks (k, _) => insertText k ks) acc) []
  let header := csvLine (["id", "type", "channel", "created_at"] ++ keys)
  let rows := decoded.map fun (e, a) =>
    csvLine ([e.id, e.type, e.channel, e.createdAt.rfc3339Nano] ++
      keys.map fun k => ((a.find? (·.1 == k)).map (·.2)).getD "")
  pure (header ++ String.join rows)

/-- Write the window `[start, end)` as CSV and columnar files under a
directory among files, or say why not. -/
def AuditLog.export (log : AuditLog) (fs : Files) (dir : String) (start stop : Instant) :
    Except String (Export × Files) := do
  let entries ← log.between start stop
  let fs ← match makeDirs fs dir with
    | .ok f => pure f
    | .error e => throw ("audit: create export dir: " ++ e)
  let base := "factory-events-" ++ start.compact ++ "-" ++ stop.compact
  let csvPath := Path.join [dir, base ++ ".csv"]
  let parquetPath := Path.join [dir, base ++ ".parquet"]
  if fs.lookup csvPath = .directory then throw ("audit: create csv: open " ++ csvPath ++ ": is a directory")
  let csv ← csvText entries
  if fs.lookup parquetPath = .directory then
    throw ("audit: create parquet: open " ++ parquetPath ++ ": is a directory")
  let fs := { fs with files := (fs.files.filter fun (p, _) => p != csvPath && p != parquetPath) ++
    [(csvPath, csv), (parquetPath, "")] }
  pure (⟨start, stop, entries.length, csvPath, parquetPath, csv⟩, fs)

theorem AuditLog.recent_without_table (log : AuditLog) (type channel : String) (limit : Int)
    (hOpen : log.isOpen = true) (hGone : log.hasTable = false) :
    log.recent type channel limit = .error noAuditTable := by
  simp [AuditLog.recent, AuditLog.readQuery, hOpen, hGone]

theorem AuditLog.between_bad (log : AuditLog) (start stop : Instant) (h : start.before stop = false) :
    log.between start stop = .error AuditLog.badWindow := by
  simp [AuditLog.between, h]

end Issuance.Service
