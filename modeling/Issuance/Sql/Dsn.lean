import Issuance.Sql.Exec
import Issuance.Files
import Issuance.Text.Url
/-! # Opening a database by name

The query string after the first `?` holds pragmas, the time format and a
VFS; a `file:` name is a URI with `mode`, `cache` and `vfs`. `:memory:` is
in memory, an empty name temporary. The first read of a file checks its
first page, then the schema page. -/
namespace Issuance.Sql

inductive Access
  | readOnly
  | readWrite
  | create
  deriving DecidableEq, Repr

inductive Target
  | memory
  | temporary
  | file (path : String) (access : Access)
  deriving DecidableEq, Repr

structure Dsn where
  target : Target
  pragmas : List String := []
  timeFormat : Option String := none
  deriving Repr

def vfsNames : List String := ["unix", "unix-none", "unix-dotfile", "unix-excl", "memdb"]

def openCodeText : Nat → String
  | 3 => "access permission denied"
  | 8 => "attempt to write a readonly database"
  | 11 => "database disk image is malformed"
  | 14 => "unable to open database file"
  | 26 => "file is not a database"
  | c => codeText c

def openFailure (code : Nat) : String :=
  openCodeText code ++ ": out of memory (" ++ toString code ++ ")"

def useFailure (code : Nat) : String := openCodeText code ++ " (" ++ toString code ++ ")"

def hexDigit? (c : Char) : Option Nat := Text.Url.hexVal c.toNat

/-- The rest of a URI part after an escaped NUL: up to what ends the part
(`?` for the file, `=` or `&` for an option name, `&` for a value) or `#`. -/
def skipPart (state : Nat) (cs : List Char) : List Char :=
  cs.dropWhile fun c => c ≠ '#' && (state ≠ 0 || c ≠ '?') && (state ≠ 1 || (c ≠ '=' && c ≠ '&')) &&
    (state ≠ 2 || c ≠ '&')

def skipOption (last : Char) (cs : List Char) : List Char :=
  if last = '&' then cs else
  match cs.dropWhile (fun c => c ≠ '#' && c ≠ '&') with
  | '&' :: rest => rest
  | rest => rest

def uriParts : Nat → List Char → Nat → List (Option Char) → List (Option Char)
  | 0, _, state, out => if state = 1 then out ++ [none] else out
  | fuel + 1, cs, state, out =>
    match cs with
    | [] => if state = 1 then out ++ [none] else out
    | '#' :: _ => if state = 1 then out ++ [none] else out
    | '%' :: a :: b :: rest =>
      match hexDigit? a, hexDigit? b with
      | some x, some y =>
        let octet := x * 16 + y
        if octet = 0 then uriParts fuel (skipPart state rest) state out
        else uriParts fuel rest state (out ++ [some (Char.ofNat octet)])
      | _, _ => uriParts fuel (a :: b :: rest) state (out ++ [some '%'])
    | c :: rest =>
      if state = 1 && (c = '&' || c = '=') then
        if out.getLast? = some none then uriParts fuel (skipOption c rest) state out
        else if c = '&' then uriParts fuel rest 1 (out ++ [none])
        else uriParts fuel rest 2 (out ++ [none])
      else if (state = 0 && c = '?') || (state = 2 && c = '&') then uriParts fuel rest 1 (out ++ [none])
      else uriParts fuel rest state (out ++ [some c])

def splitParts (out : List (Option Char)) : List String :=
  let (done, cur) := out.foldl (fun (done, cur) o => match o with
    | none => (done ++ [String.ofList cur], [])
    | some c => (done, cur ++ [c])) ([], [])
  if cur.isEmpty then done else done ++ [String.ofList cur]

def optionPairs : List String → List (String × String)
  | [] => []
  | n :: rest =>
    if n.isEmpty then [] else
    match rest with
    | [] => [(n, "")]
    | v :: more => (n, v) :: optionPairs more

def applyOptions (vfs : Option String) (memory : Bool) (access : Access) :
    List (String × String) → Except String (Option String × Bool × Access)
  | [] => .ok (vfs, memory, access)
  | (n, v) :: rest =>
    if n = "vfs" then applyOptions (some v) memory access rest
    else if n = "cache" then
      if v = "shared" || v = "private" then applyOptions vfs memory access rest
      else .error ("no such cache mode: " ++ v)
    else if n = "mode" then
      match v with
      | "ro" => applyOptions vfs false .readOnly rest
      | "rw" => applyOptions vfs false .readWrite rest
      | "rwc" => applyOptions vfs false .create rest
      | "memory" => applyOptions vfs true access rest
      | _ => .error ("no such access mode: " ++ v)
    else applyOptions vfs memory access rest

def nameTarget (name : String) (driverVfs : Option String) : Except String Target := do
  let (file, vfs, memory, access) ← if name.startsWith "file:" then do
      let cs := (name.drop 5).toString.toList
      let cs ← match cs with
        | '/' :: '/' :: rest =>
          let auth := rest.takeWhile (· ≠ '/')
          if auth.isEmpty || String.ofList auth = "localhost" then pure (rest.drop auth.length)
          else throw ("invalid uri authority: " ++ String.ofList auth)
        | _ => pure cs
      let parts := splitParts (uriParts (cs.length + 1) cs 0 [])
      let file := parts.headD ""
      let (vfs, memory, access) ← applyOptions driverVfs false .create (optionPairs (parts.drop 1))
      pure (file, vfs, memory, access)
    else pure (name, driverVfs, false, Access.create)
  match vfs with
  | some v => if !vfsNames.contains v then throw ("no such vfs: " ++ v)
  | none => pure ()
  if memory || file = ":memory:" then pure .memory
  else if file.isEmpty then pure .temporary
  else pure (.file file access)

def Dsn.read (dsn : String) : Except String Dsn := do
  let cs := dsn.toList
  let pos := cs.idxOf '?'
  let (name, query) :=
    if pos ≥ 1 && pos < cs.length then
      let q := String.ofList (cs.drop (pos + 1))
      (if dsn.startsWith "file:" then dsn else String.ofList (cs.take pos), some q)
    else (dsn, none)
  let params ← match query with
    | some q =>
      match Text.Url.parseQuery q with
      | (_, some e) => throw e
      | (ps, none) => pure ps
    | none => pure []
  let vfsGiven := Text.Url.queryValues params "vfs"
  let chosen ← vfsGiven.foldlM (fun (r : String) v =>
    if r ≠ "" && r ≠ v then throw ("conflicting vfs query parameters: [" ++ " ".intercalate vfsGiven ++ "]")
    else pure v) ""
  let driverVfs := if chosen.isEmpty then none else some chosen
  match nameTarget name driverVfs with
  | .error _ => throw (openFailure 1)
  | .ok target =>
    pure ⟨target, Text.Url.queryValues params "_pragma", (Text.Url.queryValue params "_time_format").filter (!·.isEmpty)⟩

/-- Whether the file of a target can be opened among some files: an
existing file always, a missing one only when it may be made and its
directory is there. -/
def Target.opens (fs : Files) : Target → Bool
  | .file path access =>
    match fs.lookup path with
    | .file _ => true
    | .missing => access = .create && fs.parentThere path
    | _ => false
  | _ => true

def timeFormats : List String := ["sqlite"]

/-- Open a database by name among some files: the first failure's message
from reading the name, opening, the pragmas (each on an empty database) and
the time format. -/
def Dsn.openIn (fs : Files) (dsn : String) : Except String Dsn := do
  let d ← Dsn.read dsn
  if !d.target.opens fs then throw (openFailure 14)
  for p in d.pragmas do
    match (runScript {} 0 ("pragma " ++ p)).2 with
    | .error f => throw f.message
    | .ok _ => pure ()
  match d.timeFormat with
  | some f => if !timeFormats.contains f then throw ("unknown _time_format " ++ Text.quoted f)
  | none => pure ()
  pure d

def bigEndianAt (page : Bytes) (at_ width : Nat) : Nat :=
  ((page.drop at_).take width).foldl (fun acc b => acc * 256 + b.toNat) 0

def fileMagic : Bytes := Bytes.ofString ("SQLite format 3" ++ String.singleton (Char.ofNat 0))

/-- What reading a file's first page finds with a page size: the failure
code or whether it may be written; a different header page size is read
again with it. -/
def firstPageVerdict (bytes : Bytes) : Nat → Nat → Except Nat Bool
  | 0, _ => .error 26
  | tries + 1, pageSize =>
    let size := bytes.length
    let pagesInFile := (size + pageSize - 1) / pageSize
    let page := bytes.take pageSize ++ List.replicate (pageSize - min pageSize size) 0
    let inHeader := bigEndianAt page 28 4
    let pages := if inHeader = 0 || (page.drop 24).take 4 != (page.drop 92).take 4 then pagesInFile else inHeader
    if page.take 16 != fileMagic then .error 26
    else if page.getD 19 0 > 2 then .error 26
    else if (page.drop 21).take 3 != [64, 32, 32] then .error 26
    else
      let stated := (page.getD 16 0).toNat * 256 + (page.getD 17 0).toNat * 65536
      let isPower := stated > 0 && stated &&& (stated - 1) = 0
      if !isPower || stated > 65536 || stated ≤ 256 then .error 26
      else if stated ≠ pageSize then firstPageVerdict bytes tries stated
      else if pages > pagesInFile then .error 11
      else if stated - (page.getD 20 0).toNat < 480 then .error 26
      else if page.getD 100 0 = 13 && bigEndianAt page 103 2 = 0 then .ok (page.getD 18 0 ≤ 2)
      else .error 11

def fileVerdict (bytes : Bytes) : Except Nat Bool :=
  if bytes.length ≤ 1 then .ok true else firstPageVerdict bytes 3 4096

def openForAudit (fs : Files) (known : String → Bool) (dsn : String) : Except String Target := do
  let d ← match Dsn.openIn fs dsn with
    | .ok d => pure d
    | .error e => throw ("audit: open database: " ++ e)
  match d.target with
  | .file p access =>
    if known p then pure d.target else
    let verdict := match fs.lookup p with
      | .file text => fileVerdict (Bytes.ofString text)
      | _ => .ok true
    match verdict with
    | .error c => throw ("audit: migrate: " ++ useFailure c)
    | .ok writable =>
      if writable && access != .readOnly then pure d.target
      else throw ("audit: migrate: " ++ useFailure 8)
  | t => pure t

end Issuance.Sql
