import Issuance.Keystore.Open
import Issuance.Files
/-! # Keystore files

Loading opens the file with the password. Saving seals the key at a cost
into a new file, then puts it in place of what was there (a non-empty
directory refuses). A fresh key is saved only to an empty path. -/
namespace Issuance.Keystore

structure Cost where
  n : Int := 262144
  p : Int := 1
  deriving DecidableEq, Repr

def emptyPath : Halt := .error "crypto: empty keystore path"

/-- The text of the keystore at a path, or none when nothing is there. -/
def readAt (fs : Files) (path : String) : Except Halt (Option String) :=
  if path = "" then .error emptyPath else
  match fs.lookup path with
  | .missing => .ok none
  | .throughFile => .error (.error ("open " ++ path ++ ": not a directory"))
  | .directory => .error (.error ("read " ++ path ++ ": is a directory"))
  | .file text => .ok (some text)

def load (fs : Files) (path password : String) : Except Halt SigningKey := do
  match ← readAt fs path with
  | some text => open? text password
  | none => throw (.error ("open " ++ path ++ ": no such file or directory"))

/-- Save a key at a path: a key and a path given, a cost scrypt accepts,
and a removable target; the working directory cannot be removed. -/
def save (fs : Files) (path : String) (key : Option SigningKey) (cost : Cost) :
    Except Halt SigningKey := do
  let some k := key | throw (.error "crypto: nil private key")
  if path = "" then throw emptyPath
  Kdf.checkCost cost.n 8 cost.p
  if fs.lookup path = .directory then
    if Files.parts path = [] then throw (.error ("remove " ++ path ++ ": invalid argument"))
    throw (.error ("remove " ++ path ++ ": directory not empty"))
  pure k

/-- The key at a path, or a fresh key saved there when nothing is; with
whether it was made. -/
def loadOrCreate (fs : Files) (path password : String) (cost : Cost) (fresh : SigningKey) :
    Except Halt (SigningKey × Bool) := do
  match ← readAt fs path with
  | some text => pure (← open? text password, false)
  | none => pure (← save fs path (some fresh) cost, true)

end Issuance.Keystore
