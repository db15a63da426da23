import Issuance.Toml.Document
import Issuance.Toml.Token
/-! # Reading a TOML document

Statements are applied as read, so the first fault is reported with its line
and the key last read. A dotted key makes its tables implicitly; an inline
table is built in its own context. -/
namespace Issuance.Toml

open Decimal

structure ReadError where
  line : Nat
  lastKey : String
  message : String
  deriving DecidableEq, Repr

def ReadError.text (e : ReadError) : String :=
  if e.lastKey.isEmpty then "toml: line " ++ toString e.line ++ ": " ++ e.message
  else "toml: line " ++ toString e.line ++ " (last key " ++ Text.quoted e.lastKey ++ "): " ++ e.message

structure Document where
  root : Table
  keys : List Key
  lines : List (String × Nat)

def Document.lineOf (d : Document) (k : Key) : Nat := (d.lines.lookup (Key.text k)).getD 0

structure Reader where
  tokens : List Token
  fault : Option TokenFault
  build : Builder

abbrev Read := StateT Reader (Except ReadError)

def failAt (line : Nat) (message : String) : Read α := do
  throw ⟨line, (← get).build.lastKey, message⟩

def building (x : Build α) : Read α := do
  let r ← get
  match x.run r.build with
  | .ok (a, b) =>
    set { r with build := b }
    pure a
  | .error e => throw ⟨e.line, e.lastKey, e.message⟩

def nextToken : Read Token := do
  let r ← get
  match r.tokens with
  | t :: rest =>
    set { r with tokens := rest }
    pure t
  | [] =>
    match r.fault with
    | some f => failAt f.line f.message
    | none => pure ⟨.eof, "", r.build.line⟩

def nextPos : Read Token := do
  let t ← nextToken
  modify fun r => { r with build := { r.build with line := t.line } }
  pure t

def outOfOrder (t : Token) : Read α := failAt t.line "unexpected token"

def stringOf (t : Token) : Read String := do
  let unescaped (cs : List Char) : Read String :=
    match unescape cs with
    | .ok r => pure (String.ofList r)
    | .error m => failAt t.line m
  match t.kind with
  | .string | .rawString => pure t.text
  | .escapedString => unescaped t.text.toList
  | .multilineString => unescaped (dropLineEnds (dropFirstBreak t.text.toList))
  | .rawMultilineString => pure (String.ofList (dropFirstBreak t.text.toList))
  | _ => outOfOrder t

def keyParts (stop : TokenKind) : Nat → Token → Read Key
  | 0, t => outOfOrder t
  | n + 1, t =>
    if t.kind = stop || t.kind = .eof then pure []
    else do
      let part ← if t.kind = .text then pure t.text else stringOf t
      pure (part :: (← keyParts stop n (← nextToken)))

def scalar (t : Token) (r : Except String Value) : Read Value :=
  match r with
  | .ok v => pure v
  | .error m => failAt t.line m

def openDotted : List String → Read Unit
  | [] => pure ()
  | k :: rest => do
    let ctx := (← get).build.context
    building (addImplicitContext (ctx ++ [k]))
    openDotted rest

def putApart (parents : List String) (key : String) (v : Value) (t : Table) : Except Unit Table :=
  match parents with
  | [] => .ok (t.put key v)
  | p :: rest =>
    match t.get? p with
    | none => do pure (t.put p (.table (← putApart rest key v [])))
    | some (.table sub) => do pure (t.put p (.table (← putApart rest key v sub)))
    | some _ => .error ()

mutual

def value : Nat → Token → Bool → Read (Value × Bool)
  | 0, t, _ => outOfOrder t
  | n + 1, t, inArray =>
    match t.kind with
    | .string | .escapedString | .multilineString | .rawString | .rawMultilineString => do
      pure (.str (← stringOf t), false)
    | .integer => do pure (← scalar t ((readInteger t.text).map Value.int), false)
    | .float => do pure (← scalar t ((readFloat t.text).map Value.float), false)
    | .bool => pure (.bool (t.text = "true"), false)
    | .datetime => do pure (← scalar t ((readDatetime t.text).map Value.datetime), false)
    | .arrayStart => do
      let key := (← get).build.currentKey
      modify fun r => { r with build := r.build.setType key true t.line }
      pure (.array (← items n), true)
    | .inlineTableStart => do pure (← inlineTable n inArray, false)
    | _ => outOfOrder t

def items : Nat → Read (List Value)
  | 0 => do outOfOrder (← nextToken)
  | n + 1 => do
    let t ← nextToken
    match t.kind with
    | .arrayEnd => pure []
    | .commentStart =>
      let _ ← nextToken
      items n
    | _ =>
      let (v, _) ← value n t true
      pure (v :: (← items n))

/-- An inline table after its opening token, past its closing one. Its
pairs are set in the document within its own context, and gathered apart as
its value. -/
def inlineTable : Nat → Bool → Read Value
  | 0, _ => do outOfOrder (← nextToken)
  | n + 1, inArray => do
    let b := (← get).build
    let outerContext := b.context
    let outerKey := b.currentKey
    let ctx := b.context ++ [b.currentKey]
    modify fun r => { r with build := { r.build with context := ctx, currentKey := "" } }
    modify fun r => { r with build := r.build.addImplicit ctx }
    building (addContext ctx inArray)
    let fields ← inlinePairs n ctx []
    modify fun r => { r with build := { r.build with context := outerContext, currentKey := outerKey } }
    pure (.table fields)

def inlinePairs : Nat → Key → Table → Read Table
  | 0, _, _ => do outOfOrder (← nextToken)
  | n + 1, ctx, acc => do
    let it ← nextToken
    match it.kind with
    | .inlineTableEnd => pure acc
    | .commentStart =>
      let _ ← nextToken
      inlinePairs n ctx acc
    | _ =>
      let key ← keyParts .keyEnd n (← nextPos)
      let last := key.getLast?.getD ""
      let parents := key.dropLast
      modify fun r => { r with build := { r.build with currentKey := last } }
      openDotted parents
      modify fun r => { r with build := { r.build with ordered := r.build.ordered.push (r.build.context ++ [last]) } }
      let (v, array) ← value n (← nextToken) false
      building (setValue last v)
      modify fun r => { r with build := r.build.setType last array it.line }
      let acc ← match putApart parents last v acc with
        | .ok t => pure t
        | .error () => building (Build.fail (Text.quoted (Key.text (← get).build.context) ++ " is not a table"))
      modify fun r => { r with build := { r.build with context := ctx } }
      inlinePairs n ctx acc

end

def statement (n : Nat) (t : Token) : Read Unit := do
  match t.kind with
  | .commentStart =>
    let _ ← nextToken
  | .tableStart | .arrayTableStart =>
    let array := t.kind = .arrayTableStart
    let key ← keyParts (if array then .arrayTableEnd else .tableEnd) n (← nextPos)
    building (addContext key array)
    modify fun r => { r with build := r.build.setType "" false t.line }
    modify fun r => { r with build := { r.build with ordered := r.build.ordered.push key } }
  | .keyStart =>
    let outer := (← get).build.context
    let key ← keyParts .keyEnd n (← nextPos)
    let last := key.getLast?.getD ""
    modify fun r => { r with build := { r.build with currentKey := last } }
    openDotted key.dropLast
    modify fun r => { r with build := { r.build with ordered := r.build.ordered.push (r.build.context ++ [last]) } }
    let vt ← nextToken
    let (v, array) ← value n vt false
    building (setValue last v)
    modify fun r => { r with build := r.build.setType last array vt.line }
    modify fun r => { r with build := { r.build with context := outer, currentKey := "" } }
  | _ => outOfOrder t

def statements : Nat → Read Unit
  | 0 => pure ()
  | n + 1 => do
    let t ← nextToken
    if t.kind = .eof then pure ()
    else
      statement n t
      statements n

def byteOrderMark : Char := Char.ofNat 0xFEFF

def earlyNul (cs : List Char) : Bool :=
  let rec go : Nat → List Char → Bool
    | _, [] => false
    | used, c :: rest => used < 6 && (c.toNat = 0 || go (used + c.utf8Size) rest)
  go 0 cs

def read (text : String) : Except ReadError Document :=
  let cs := match text.toList with
    | c :: rest => if c = byteOrderMark then rest else c :: rest
    | [] => []
  if earlyNul cs then
    .error ⟨1, "", "files cannot contain NULL bytes; probably using UTF-16; TOML files must be UTF-8"⟩
  else
  let (tokens, fault) := tokenize (String.ofList cs)
  let fuel := tokens.size + 2
  match (statements fuel).run ⟨tokens.toList, fault, {}⟩ with
  | .ok ((), r) =>
    .ok ⟨r.build.root, r.build.ordered.toList, r.build.keyInfo.map fun (k, i) => (k, i.line)⟩
  | .error e => .error e

end Issuance.Toml
