import Issuance.Sql.Json
/-! # The rows of `json_each` and `json_tree`

A row per item of the picked value, or for it and every value under it,
parents first; ids are places in the database's reading. -/
namespace Issuance.Sql

inductive JsonStep
  | item (index : Nat)
  | member (key : JsonKey)

def JsonNode.span : Nat → JsonNode → Nat
  | 0, _ => 1
  | n + 1, .array items => 1 + (items.map (JsonNode.span n)).sum
  | n + 1, .object ms => 1 + (ms.map fun (_, v) => 1 + JsonNode.span n v).sum
  | n + 1, .removed x => JsonNode.span n x
  | _ + 1, _ => 1

def JsonNode.locate : Nat → JsonNode → Nat → List Char → Except String (Option (JsonNode × Nat × List JsonStep))
  | 0, _, _, _ => .ok none
  | fuel + 1, node, id, path =>
    match path with
    | [] => .ok (some (node, id, []))
    | c :: rest =>
      match node with
      | .given .. | .removed _ => .ok none
      | _ =>
        if c = '.' then
          match node with
          | .object ms => do
            let (key, after) ← pathKey rest
            match ms.zipIdx.find? (·.1.1.matches key) with
            | some ((k, v), i) =>
              let vid := id + 1 + ((ms.take i).map fun (_, w) => 1 + w.span fuel).sum + 1
              let r ← JsonNode.locate fuel v vid after
              pure (r.map fun (x, xid, steps) => (x, xid, .member k :: steps))
            | none => pure none
          | _ => .ok none
        else if c = '[' then do
          let (isArray, items) := match node with
            | .array xs => (true, xs)
            | _ => (false, [])
          match ← indexStep path isArray items.length with
          | some (i, after) =>
            match items[i]? with
            | some v =>
              let vid := id + 1 + ((items.take i).map (JsonNode.span fuel)).sum
              let r ← JsonNode.locate fuel v vid after
              pure (r.map fun (x, xid, steps) => (x, xid, .item i :: steps))
            | none => pure none
          | none => pure none
        else .error (String.ofList path)

/-- A key as a full path writes it after a point: bare when it is an ASCII
letter and then ASCII letters and digits, else in its quotes as written. -/
def JsonKey.pathText (k : JsonKey) : String :=
  match k.form with
  | .added => "." ++ k.text
  | .standard =>
    let inner := (k.text.toList.drop 1).dropLast
    match inner with
    | c :: cs =>
      if c.isAlpha && c.toNat < 128 && cs.all isAsciiAlnum then "." ++ String.ofList inner else "." ++ k.text
    | [] => "." ++ k.text

def JsonKey.value (k : JsonKey) : Value :=
  match k.form with
  | .added => jsonText k.text
  | .standard => jsonText (decodeString k.text)

structure JsonRow where
  key : Value
  value : Value × Bool
  type : String
  atom : Value
  id : Nat
  parent : Option Nat
  fullkey : String
  path : String

def JsonNode.row (fuel : Nat) (node : JsonNode) (key : Value) (id : Nat) (parent : Option Nat)
    (fullkey path : String) : Except Failure JsonRow := do
  let value ← node.value fuel
  let atom := match node with
    | .array _ | .object _ => Value.null
    | _ => value.1
  pure ⟨key, value, node.typeName, atom, id, parent, fullkey, path⟩

def JsonNode.treeRows : Nat → JsonNode → Nat → String → Except Failure (List JsonRow)
  | 0, _, _, _ => .ok []
  | fuel + 1, node, id, full =>
    match node with
    | .array items => do
      let (_, rows) ← items.zipIdx.foldlM (fun (acc : Nat × List JsonRow) (x, k) => do
        let (xid, rows) := acc
        let xfull := full ++ "[" ++ toString k ++ "]"
        let r ← x.row fuel (.int k) xid (some id) xfull full
        let below ← JsonNode.treeRows fuel x xid xfull
        pure (xid + x.span fuel, rows ++ r :: below)) (id + 1, [])
      pure rows
    | .object ms => do
      let (_, rows) ← ms.foldlM (fun (acc : Nat × List JsonRow) (k, v) => do
        let (lid, rows) := acc
        let vfull := full ++ k.pathText
        let r ← v.row fuel k.value (lid + 1) (some id) vfull full
        let below ← JsonNode.treeRows fuel v (lid + 1) vfull
        pure (lid + 1 + v.span fuel, rows ++ r :: below)) (id + 1, [])
      pure rows
    | _ => .ok []

def stepsPath (steps : List JsonStep) : String :=
  "$" ++ String.join (steps.map fun s => match s with
    | .item _ => "[0]"
    | .member k => k.pathText)

def jsonTableRows (fuel : Nat) (tree : Bool) (doc : JsonNode) (root : Option String) :
    Except Failure (List JsonRow) := do
  let found ← match root with
    | none => pure (some (doc, 0, []))
    | some r => do
      let rest ← pathAfterRoot r
      match doc.locate fuel 0 rest with
      | .ok x => pure x
      | .error near => throw (pathFailure near)
  match found with
  | none => pure []
  | some (node, id, steps) =>
    let rootText := root.getD "$"
    if tree then
      let key := match steps.getLast? with
        | some (.member k) => k.value
        | _ => Value.null
      let full := stepsPath steps
      let first ← node.row fuel key id none full (stepsPath steps.dropLast)
      let below ← node.treeRows fuel id full
      pure (first :: below)
    else
      match node with
      | .array items => do
        let (_, rows) ← items.zipIdx.foldlM (fun (acc : Nat × List JsonRow) (x, k) => do
          let (xid, rows) := acc
          let r ← x.row fuel (.int k) xid none (rootText ++ "[" ++ toString k ++ "]") rootText
          pure (xid + x.span fuel, rows ++ [r])) (id + 1, [])
        pure rows
      | .object ms => do
        let (_, rows) ← ms.foldlM (fun (acc : Nat × List JsonRow) (k, v) => do
          let (lid, rows) := acc
          let r ← v.row fuel k.value (lid + 1) none (rootText ++ k.pathText) rootText
          pure (lid + 1 + v.span fuel, rows ++ [r])) (id + 1, [])
        pure rows
      | _ => do
        let r ← node.row fuel .null id none rootText rootText
        pure [r]

def jsonTableColumns : List String :=
  ["key", "value", "type", "atom", "id", "parent", "fullkey", "path", "json", "root"]

def JsonRow.values (r : JsonRow) (json : Value) (root : String) : List Value :=
  [r.key, r.value.1, .str r.type, r.atom, .int r.id, (r.parent.map fun p => Value.int p).getD .null,
    jsonText r.fullkey, jsonText r.path, json, jsonText root]

def isJsonTable (name : String) : Bool :=
  let key := String.ofList (name.toList.map foldAscii)
  key = "json_each" || key = "json_tree"

def jsonTableValues (name : String) (args : List Value) : Except Failure (List (List Value)) :=
  match args with
  | [] => .ok []
  | .null :: _ => .ok []
  | json :: rest => do
    let fuel := jsonFuel (json.jsonChars :: rest.map Value.jsonChars)
    let doc ← documentOf json
    let root? : Option (Option String) := match rest with
      | [] => some none
      | r :: _ => (pathText r).map some
    match doc, root? with
    | some d, some root => do
      let tree := String.ofList (name.toList.map foldAscii) = "json_tree"
      let rows ← jsonTableRows fuel tree d root
      pure (rows.zipIdx.map fun (r, i) => r.values (.text json.textBytes) (root.getD "$") ++ [.int i])
    | _, _ => pure []

end Issuance.Sql
