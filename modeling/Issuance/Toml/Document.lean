import Issuance.Toml.Value
/-! # Building a TOML document

Statements set keys in a context table. Setting an existing key is a fault
except an array (replaced) or an implicit table (named once); a header makes
its missing tables implicitly. -/
namespace Issuance.Toml

structure KeyInfo where
  array : Bool
  line : Nat
  deriving DecidableEq, Repr, Inhabited

namespace Table

def walk : Table → Key → Except (Nat × Bool) Table
  | t, [] => .ok t
  | t, k :: rest =>
    let deeper (sub : Table) : Except (Nat × Bool) Table :=
      match walk sub rest with
      | .ok r => .ok r
      | .error (n, missing) => .error (n + 1, missing)
    match t.get? k with
    | some (.table sub) => deeper sub
    | some (.tables subs) =>
      match subs.getLast? with
      | some last => deeper last
      | none => .error (0, false)
    | some _ => .error (0, false)
    | none => .error (0, true)

def modifyAt (f : Table → Table) : Table → Key → Table
  | t, [] => f t
  | t, k :: rest =>
    match t.get? k with
    | some (.table sub) => t.put k (.table (modifyAt f sub rest))
    | some (.tables subs) =>
      match subs.getLast? with
      | some last => t.put k (.tables (subs.dropLast ++ [modifyAt f last rest]))
      | none => t
    | _ => t

def getAt (t : Table) (path : Key) (k : String) : Option Value :=
  match t.walk path with
  | .ok sub => sub.get? k
  | .error _ => none

end Table

/-- A document being built: table, context, key being set, the line
faults are reported on, keys in order, what is known of each, and the
implicit keys. -/
structure Builder where
  root : Table := []
  context : Key := []
  currentKey : String := ""
  line : Nat := 0
  ordered : Array Key := #[]
  keyInfo : List (String × KeyInfo) := []
  implicits : List String := []
  deriving Inhabited

namespace Builder

def lastKey (b : Builder) : String :=
  if b.currentKey.isEmpty then Key.text b.context
  else if b.context.isEmpty then b.currentKey
  else Key.text b.context ++ "." ++ b.currentKey

def isArray (b : Builder) (k : Key) : Bool :=
  ((b.keyInfo.lookup (Key.text k)).map (·.array)).getD false

def isImplicit (b : Builder) (k : Key) : Bool := b.implicits.contains (Key.text k)

def addImplicit (b : Builder) (k : Key) : Builder :=
  if b.isImplicit k then b else { b with implicits := Key.text k :: b.implicits }

def removeImplicit (b : Builder) (k : Key) : Builder :=
  { b with implicits := b.implicits.filter (· ≠ Key.text k) }

def setType (b : Builder) (key : String) (array : Bool) (line : Nat) : Builder :=
  let k := if key.isEmpty then b.context else b.context ++ [key]
  let k := if k.isEmpty then [""] else k
  { b with keyInfo := (Key.text k, ⟨array, line⟩) :: b.keyInfo }

end Builder

structure BuildFault where
  line : Nat
  lastKey : String
  message : String
  deriving DecidableEq, Repr

abbrev Build := StateT Builder (Except BuildFault)

def Build.fail (message : String) : Build α := do
  let b ← get
  throw ⟨b.line, b.lastKey, message⟩

def definedTwice (k : Key) : String := "Key '" ++ Key.text k ++ "' has already been defined."

def setValue (key : String) (v : Value) : Build Unit := do
  let b ← get
  match b.root.walk b.context with
  | .error (n, _) => Build.fail (definedTwice (b.context.take (n + 1)))
  | .ok hash =>
    let full := b.context ++ [key]
    let put : Build Unit := modify fun b => { b with root := b.root.modifyAt (·.put key v) b.context }
    if (hash.get? key).isSome then
      if b.isArray full then
        modify (·.removeImplicit full)
        put
      else if b.isImplicit full then modify (·.removeImplicit full)
      else Build.fail (definedTwice full)
    else put

def openParents (done : Key) : List String → Build Unit
  | [] => pure ()
  | k :: rest => do
    let here := done ++ [k]
    if ((← get).root.getAt done k).isNone then
      modify fun b => { (b.addImplicit here) with root := b.root.modifyAt (·.put k (.table [])) done }
    match (← get).root.getAt done k with
    | some (.table _) | some (.tables _) => openParents here rest
    | _ => Build.fail ("Key '" ++ Key.text here ++ "' was already created as a hash.")

def addContext (key : Key) (array : Bool) : Build Unit := do
  let parents := key.dropLast
  let last := key.getLast?.getD ""
  openParents [] parents
  modify fun b => { b with context := parents }
  if array then
    if ((← get).root.getAt parents last).isNone then
      modify fun b => { b with root := b.root.modifyAt (·.put last (.tables [])) parents }
    match (← get).root.getAt parents last with
    | some (.tables ts) =>
      modify fun b => { b with root := b.root.modifyAt (·.put last (.tables (ts ++ [[]]))) parents }
    | _ => Build.fail ("Key '" ++ Key.text key ++ "' was already created and cannot be used as an array.")
  else setValue last (.table [])
  modify fun b => { b with context := parents ++ [last] }

def addImplicitContext (key : Key) : Build Unit := do
  modify (·.addImplicit key)
  addContext key false

end Issuance.Toml
