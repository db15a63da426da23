import Issuance.Config.Read
import Issuance.Files
/-! # Loading a configuration file

With nothing at the path the initial configuration is written and used. A
file is read as TOML, must use every key, then takes its defaults and is
checked. -/
namespace Issuance.Config

def unknownKey (path : String) (k : Toml.Key) : String :=
  "config file " ++ path ++ " has unknown key " ++ Toml.Key.text k

def ofText (path text : String) : Except String Config := do
  let d ← (Toml.read text).mapError fun e => "decode " ++ path ++ ": " ++ e.text
  let (c, unused) ← (ofDocument d).mapError fun m => "decode " ++ path ++ ": " ++ m
  if let some k := unused then throw (unknownKey path k)
  let c := withDefaults path c
  validate c
  pure c

/-- Load the configuration at a path, writing the initial one when there is
none. -/
def load (fs : Files) (path : String) : Except String Config :=
  match fs.lookup path with
  | .throughFile => .error ("stat " ++ path ++ ": not a directory")
  | .directory => .error ("decode " ++ path ++ ": read " ++ path ++ ": is a directory")
  | .file text => ofText path text
  | .missing =>
    if path.endsWith "/" then .error ("open " ++ path ++ ": is a directory")
    else .ok (initial path)

end Issuance.Config
