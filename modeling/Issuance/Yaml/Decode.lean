import Issuance.Yaml.Node
/-! # Decoding YAML into values

A target says, per type, what scalars, sequences and mappings make and
whether null clears. Decoding goes past a wrong-kind node, noting it; a
repeated key stops a mapping; aliases decode as their node, cycles and
oversized expansions fail; `<<` fills fields not yet set. -/
namespace Issuance.Yaml

structure Decoding where
  doc : Document
  notes : Array String := #[]
  decodes : Nat := 0
  aliased : Nat := 0
  aliasDepth : Nat := 0
  expanding : List Nat := []
  merged : Option (List String) := none

abbrev Decode := StateT Decoding (Except String)

def fail (m : String) : Decode α := throw ("yaml: " ++ m)

def note (m : String) : Decode Unit := modify fun d => { d with notes := d.notes.push m }

def nodeAt (i : Nat) : Decode Node := do return (← get).doc.node i

def shownText (s : String) : String :=
  let b := Bytes.ofString s
  if b.length > 10 then Bytes.toTextLossy (b.take 7) ++ "..." else s

/-- Note that a node cannot become a value of a type: the node's tag (or
the one given, when it has none) and, unless it is a collection, its text. -/
def mismatch (n : Node) (tag typeName : String) : Decode Unit :=
  let tag := if n.tag ≠ "" then n.tag else tag
  let shown := if tag ≠ Tag.seq && tag ≠ Tag.map then " `" ++ shownText n.value ++ "`" else ""
  note ("line " ++ toString n.line ++ ": cannot unmarshal " ++ Tag.short tag ++ shown ++ " into " ++ typeName)

def refuse (typeName tag : String) (n : Node) (cur : α) : Decode (α × Bool) := do
  mismatch n tag typeName
  pure (cur, false)

/-- Whether aliases expanded out of proportion: past 100 expanded and 1000
in all, the share may reach 99% up to 400000 nodes, falling to 10% at
4000000. -/
def tooAliased (aliased decodes : Nat) : Bool :=
  aliased > 100 && decodes > 1000 &&
    (if decodes ≤ 400000 then 100 * aliased > 99 * decodes
    else if decodes ≥ 4000000 then 10 * aliased > decodes
    else 360000000 * aliased > (356400000 - 89 * (decodes - 400000)) * decodes)

def keysOf (n : Node) : List Nat :=
  (n.content.toList.zipIdx.filter fun (_, i) => i % 2 == 0).map (·.1)

def pairsOf (n : Node) : List (Nat × Nat) :=
  keysOf n |>.zip ((n.content.toList.zipIdx.filter fun (_, i) => i % 2 == 1).map (·.1))

def repeatedKeys (n : Node) : Decode Bool := do
  let keys ← (keysOf n).mapM nodeAt
  let repeats := keys.zipIdx.flatMap fun (ki, i) =>
    (keys.drop (i + 1)).filterMap fun kj =>
      if ki.kind == kj.kind && ki.value == kj.value then
        some ("line " ++ toString kj.line ++ ": mapping key " ++ Text.quoted kj.value ++
          " already defined at line " ++ toString ki.line)
      else none
  for m in repeats do note m
  pure !repeats.isEmpty

def scalarValue (n : Node) : Decode (String × Resolved) := do
  if n.tag = Tag.str then return (Tag.str, .str n.value)
  match resolve n.tag n.value with
  | .error m => fail m
  | .ok (tag, r) =>
    if tag ≠ Tag.binary then return (tag, r)
    match binaryText? n.value with
    | some s => return (tag, .str s)
    | none => fail "!!binary value contains invalid base64 data"

structure Target (α : Type) where
  name : String
  null : Option α
  scalar : Node → String → Resolved → α → Decode (α × Bool)
  sequence : Nat → Node → α → Decode (α × Bool)
  mapping : Nat → Node → α → Decode (α × Bool)

def unmarshal (t : Target α) : Nat → Nat → α → Decode (α × Bool)
  | 0, _, cur => pure (cur, false)
  | fuel + 1, id, cur => do
    modify fun d =>
      { d with decodes := d.decodes + 1, aliased := if d.aliasDepth > 0 then d.aliased + 1 else d.aliased }
    let d ← get
    if tooAliased d.aliased d.decodes then fail "document contains excessive aliasing"
    let n ← nodeAt id
    match n.kind with
    | .document =>
      if n.content.size = 1 then
        let (v, _) ← unmarshal t fuel (n.content.getD 0 0) cur
        pure (v, true)
      else pure (cur, false)
    | .reference =>
      if (← get).expanding.contains id then fail ("anchor '" ++ n.value ++ "' value contains itself")
      modify fun d => { d with expanding := id :: d.expanding, aliasDepth := d.aliasDepth + 1 }
      let r ← unmarshal t fuel n.target cur
      modify fun d => { d with expanding := d.expanding.erase id, aliasDepth := d.aliasDepth - 1 }
      pure r
    | .scalar =>
      let (tag, r) ← scalarValue n
      if r = .null then
        match t.null with
        | some z => pure (z, true)
        | none => pure (cur, false)
      else t.scalar n tag r cur
    | .sequence => t.sequence fuel n cur
    | .mapping => if ← repeatedKeys n then pure (cur, false) else t.mapping fuel n cur

def Target.text : Target String where
  name := "string"
  null := none
  scalar n _ r _ := pure ((match r with | .str s => s | _ => n.value), true)
  sequence _ n cur := refuse "string" Tag.seq n cur
  mapping _ n cur := refuse "string" Tag.map n cur

def Target.unsigned (bits : Nat) (typeName : String) : Target Nat where
  name := typeName
  null := none
  scalar n tag r cur :=
    match r.toUnsigned? bits with
    | some v => pure (v, true)
    | none => refuse typeName tag n cur
  sequence _ n cur := refuse typeName Tag.seq n cur
  mapping _ n cur := refuse typeName Tag.map n cur

def Target.signed : Target Int where
  name := "int64"
  null := none
  scalar n tag r cur :=
    match r.toSigned? with
    | some v => pure (v, true)
    | none => refuse "int64" tag n cur
  sequence _ n cur := refuse "int64" Tag.seq n cur
  mapping _ n cur := refuse "int64" Tag.map n cur

def Target.flag : Target Bool where
  name := "bool"
  null := none
  scalar n tag r cur :=
    match r.toFlag? with
    | some v => pure (v, true)
    | none => refuse "bool" tag n cur
  sequence _ n cur := refuse "bool" Tag.seq n cur
  mapping _ n cur := refuse "bool" Tag.map n cur

def Target.optional (t : Target α) (zero : α) : Target (Option α) where
  name := t.name
  null := some none
  scalar n tag r cur := do
    let (v, ok) ← t.scalar n tag r (cur.getD zero)
    pure (some v, ok)
  sequence fuel n cur := do
    let (v, ok) ← t.sequence fuel n (cur.getD zero)
    pure (some v, ok)
  mapping fuel n cur := do
    let (v, ok) ← t.mapping fuel n (cur.getD zero)
    pure (some v, ok)

def Target.list (t : Target α) (zero : α) : Target (List α) where
  name := "[]" ++ t.name
  null := some []
  scalar n tag _ cur := refuse ("[]" ++ t.name) tag n cur
  sequence fuel n _ := do
    let items ← n.content.toList.foldlM (fun acc c => do
      let (v, ok) ← unmarshal t fuel c zero
      pure (if ok then acc ++ [v] else acc)) []
    pure (items, true)
  mapping _ n cur := refuse ("[]" ++ t.name) Tag.map n cur

def Target.keyText : Target (Option String) where
  name := "interface \x7b\x7d"
  null := some none
  scalar _ _ r _ := pure ((match r with | .str s => some s | _ => none), true)
  sequence _ _ _ := pure (none, true)
  mapping _ _ _ := pure (none, true)

structure Field (σ : Type) where
  key : String
  set : Nat → Nat → σ → Decode σ

def Field.of (key : String) (t : Target β) (get : σ → β) (put : σ → β → σ) : Field σ :=
  ⟨key, fun fuel id r => do
    let (v, _) ← unmarshal t fuel id (get r)
    pure (put r v)⟩

def isMergeKey (n : Node) : Bool :=
  n.kind == .scalar && n.value == "<<" && (n.tag == "" || n.tag == "!" || n.tag == Tag.merge)

def keyTexts (fuel : Nat) (n : Node) : Decode (List String) :=
  (keysOf n).foldlM (fun acc k => do
    let (v, ok) ← unmarshal Target.keyText fuel k none
    pure (match ok, v with
      | true, some s => acc ++ [s]
      | _, _ => acc)) []

def mergeInto (self : Target σ) (fuel : Nat) (parent : Node) (m : Nat) (cur : σ) : Decode σ := do
  let outer := (← get).merged
  if outer.isNone then
    let keys ← keyTexts fuel parent
    modify fun d => { d with merged := some keys }
  let wantMap : Decode σ := fail "map merge requires map or sequence of maps as the value"
  let isMapping (i : Nat) : Decode Bool := do
    let n ← nodeAt i
    if n.kind == .reference then return (← nodeAt n.target).kind == .mapping
    return n.kind == .mapping
  let mn ← nodeAt m
  let r ← match mn.kind with
    | .mapping | .reference => do
      if !(← isMapping m) then wantMap
      else pure (← unmarshal self fuel m cur).1
    | .sequence =>
      mn.content.toList.foldlM (fun r i => do
        if !(← isMapping i) then wantMap
        else pure (← unmarshal self fuel i r).1) cur
    | _ => wantMap
  if outer.isNone then modify fun d => { d with merged := none }
  pure r

def recordMapping (name : String) (fields : List (Field σ)) : Nat → Node → σ → Decode (σ × Bool)
  | 0, _, cur => pure (cur, false)
  | fuel + 1, n, cur => do
    let self : Target σ :=
      { name, null := none
        scalar := fun n tag _ c => refuse name tag n c
        sequence := fun _ n c => refuse name Tag.seq n c
        mapping := fun _ n c => recordMapping name fields fuel n c }
    let outer := (← get).merged
    modify fun d => { d with merged := none }
    let mut merged := outer
    let mut r := cur
    let mut done : List String := []
    let mut mergeNode : Option Nat := none
    for (k, v) in pairsOf n do
      let kn ← nodeAt k
      if isMergeKey kn then
        mergeNode := some v
        continue
      let (key, ok) ← unmarshal Target.text fuel k ""
      if !ok then continue
      if let some given := merged then
        if given.contains key then continue
        merged := some (given ++ [key])
      match fields.find? (·.key == key) with
      | some f =>
        if done.contains key then
          note ("line " ++ toString kn.line ++ ": field " ++ key ++ " already set in type " ++ name)
          continue
        done := key :: done
        r ← f.set fuel v r
      | none => note ("line " ++ toString kn.line ++ ": field " ++ key ++ " not found in type " ++ name)
    modify fun d => { d with merged := merged }
    if let some m := mergeNode then
      r ← mergeInto self fuel n m r
    pure (r, true)

def Target.record (name : String) (fields : List (Field σ)) : Target σ where
  name := name
  null := none
  scalar n tag _ cur := refuse name tag n cur
  sequence _ n cur := refuse name Tag.seq n cur
  mapping fuel n cur := recordMapping name fields fuel n cur

def Document.decode (d : Document) (t : Target α) (init : α) : Except String (α × List String) :=
  match (unmarshal t (4 * d.nodes.size + 16) d.root init).run { doc := d } with
  | .ok ((v, _), s) => .ok (v, s.notes.toList)
  | .error e => .error e

end Issuance.Yaml
