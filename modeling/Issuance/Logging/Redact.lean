import Issuance.Text.Url
import Issuance.Text.Blank
import Issuance.Text.Case
/-! # Redacting log fields

A value stays when blank or under an allowlisted key, else becomes
`[REDACTED]`. A database address loses its password, in URL or key=value
form. -/
namespace Issuance.Logging

def redacted : String := "[REDACTED]"

def allowlist : List String :=
  ["service", "env", "message", "severity", "timestamp", "error", "component", "listen",
    "keystore", "address"]

/-- Whether a key is on the allowlist, compared trimmed and in lower case. -/
def isAllowlisted (key : String) : Bool := allowlist.contains (Text.lowerCase (Text.trim key))

def maskField (key value : String) : String :=
  if Text.isBlankText value || isAllowlisted key then value else redacted

def fields (s : String) : List String :=
  (s.toList.splitBy fun a b => Text.isBlank a = Text.isBlank b).filterMap fun w =>
    if w.all Text.isBlank then none else some (String.ofList w)

/-- A key=value word with its value hidden when the key, the text before the
first `=`, is `password`. -/
def maskWord (w : String) : String :=
  let key := String.ofList (w.toList.takeWhile (· ≠ '='))
  if w.toList.contains '=' && Text.equalFold key "password" then key ++ "=" ++ redacted else w

/-- A database address with its password hidden; a URL that cannot be read is
hidden whole. -/
def maskDsn (dsn : String) : String :=
  let t := Text.trim dsn
  if t.contains "://" then
    match Text.Url.parse t with
    | none => redacted
    | some u =>
      let u := match u.user with
        | some ⟨n, some _⟩ => { u with user := some ⟨n, some (Bytes.ofString redacted)⟩ }
        | _ => u
      u.render
  else " ".intercalate ((fields t).map maskWord)

inductive Level
  | debug
  | info
  | warn
  | error
  deriving DecidableEq, Repr

/-- Rank of a severity; a line is written when its rank reaches the threshold. -/
def Level.rank : Level → Nat
  | .debug => 0
  | .info => 1
  | .warn => 2
  | .error => 3

def Level.name : Level → String
  | .debug => "DEBUG"
  | .info => "INFO"
  | .warn => "WARN"
  | .error => "ERROR"

/-- The severity a setting names, trimmed and in any case; anything unknown is `info`. -/
def Level.parse (s : String) : Level :=
  match Text.lowerCase (Text.trim s) with
  | "debug" => .debug
  | "warn" | "warning" => .warn
  | "error" => .error
  | _ => .info

end Issuance.Logging
