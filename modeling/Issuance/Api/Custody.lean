import Issuance.Api.Request
import Issuance.Api.Reply
import Issuance.Keystore.Vault
import Issuance.Passphrase
import Issuance.Text.Path
/-! # Custody keys

Signing keys read from bytes or made fresh, the custody passphrase, and the
keystore files that hold the custody key. A fresh key stands for one drawn
at random: what is answered about it does not depend on which key it is. -/
namespace Issuance.Api

def haltJson : Halt → Json
  | .error m => internal m
  | .fault m => aborted m

def keyJson (k : SigningKey) : Json :=
  obj [("bytes", .str (Bytes.toHex k.bytes)), ("address", .str k.address.toText),
    ("hex", .str k.address.toHex)]

def freshKey : SigningKey := ⟨1, by decide, by decide⟩

/-- What is answered about a fresh key: its length, its address's prefix,
and whether its bytes give it back. -/
def freshJson (k : SigningKey) : Json :=
  let back := match SigningKey.ofBytes k.bytes with
    | .ok k' => k'.secret == k.secret
    | .error _ => false
  obj [("length", .nat k.bytes.length), ("prefix", .str Address.accountPrefix), ("roundtrip", .bool back)]

/-- The passphrase request: where to look, the variable's value when it is
set, and the scripted terminal. -/
def passphraseAnswer (j : Json) : Read Json := do
  let source : Passphrase.Source := ⟨Text.trim (← str j "env_var"), ← bool j "confirm"⟩
  let value ← if j.has "env_value" then some <$> str j "env_value" else pure none
  let present := (← bool j "terminal") && !(← bool j "default_terminal")
  let terminal : Passphrase.Terminal := ⟨present, ← strs j "inputs", ← str j "read_error"⟩
  let (r, tr) := Passphrase.resolve source value terminal
  let result := match r with
    | .ok v => ("value", .str v)
    | .error e => ("error", obj [("error", .str "internal"), ("message", .str e.message),
        ("mismatch", .bool (e == .mismatch))])
  pure (obj [("prompts", .str tr.prompts), ("reads", .nat tr.reads), ("cached", .bool true), result])

def costOf (j : Json) : Read Keystore.Cost := do
  if j.has "scrypt" then
    let c := member j "scrypt"
    pure ⟨← int c "n", ← int c "p"⟩
  else pure {}

def filesOf (j : Json) : Read Files := do
  let d ← str j "dir"
  pure { dirs := if d.isEmpty then [] else [d ++ "/inner"] }

/-- The path of a keystore request, cleaned as it is when put below the
working directory; an empty path stays empty. -/
def keystorePath (j : Json) : Read String := do
  let p ← str j "path"
  pure (if p.isEmpty then p else Text.Path.clean p)

def loadedJson (k : SigningKey) : Json :=
  obj [("address", .str k.address.toText), ("created", .bool false)]

/-- A created keystore as answered: the address's prefix, and that it loads
back and is private to its owner. -/
def createdJson (k : SigningKey) : Json :=
  obj [("created", .bool true), ("address_prefix", .str (String.ofList (k.address.toText.toList.take 4))),
    ("reloads", .bool true), ("mode", .str "600")]

def keystoreLoadAnswer (j : Json) : Read Json := do
  let password ← str j "passphrase"
  if j.has "json" then
    let text ← str j "json"
    pure (match Keystore.open? text password with
      | .ok k => loadedJson k
      | .error h => haltJson h)
  else
    let fs ← filesOf j
    let path ← keystorePath j
    if ← bool j "or_create" then
      pure (match Keystore.loadOrCreate fs path password (← costOf j) freshKey with
        | .ok (k, false) => loadedJson k
        | .ok (k, true) => createdJson k
        | .error h => haltJson h)
    else
      pure (match Keystore.load fs path password with
        | .ok k => loadedJson k
        | .error h => haltJson h)

def keystoreSaveAnswer (j : Json) : Read Json := do
  let keyHex ← str j "key_hex"
  let key ← if keyHex.isEmpty then pure (.ok none) else do
    let b ← hex j "key_hex"
    pure ((SigningKey.ofBytes b).map some)
  match key with
  | .error e => pure (internal e)
  | .ok key =>
    pure (match Keystore.save (← filesOf j) (← keystorePath j) key (← costOf j) with
      | .ok k => obj [("address", .str k.address.toText), ("mode", .str "600")]
      | .error h => haltJson h)

/-- The answer of a custody request, or `none` for another `op`. -/
def custodyAnswer (op : String) (j : Json) : Option (Read Json) :=
  match op with
  | "key_from_bytes" => some do
    pure (match SigningKey.ofBytes (← hex j "hex") with
      | .ok k => keyJson k
      | .error e => internal e)
  | "key_generate" => some (pure (freshJson freshKey))
  | "passphrase" => some (passphraseAnswer j)
  | "keystore_load" => some (keystoreLoadAnswer j)
  | "keystore_save" => some (keystoreSaveAnswer j)
  | _ => none

end Issuance.Api
