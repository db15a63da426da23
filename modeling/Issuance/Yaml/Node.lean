import Issuance.Yaml.Event
import Issuance.Yaml.Scalar
/-! # YAML nodes

Events compose a graph of nodes in one array, so an alias may point at a
node containing it. An untagged node takes the tag its kind and text
resolve to; an alias to an unknown anchor is a fault. Only the first
document is read. -/
namespace Issuance.Yaml

inductive NodeKind
  | document
  | sequence
  | mapping
  | scalar
  | reference
  deriving DecidableEq, Repr, Inhabited

structure Node where
  kind : NodeKind
  tag : String := ""
  value : String := ""
  plain : Bool := true
  line : Nat := 0
  content : Array Nat := #[]
  target : Nat := 0
  deriving Repr, Inhabited

structure Document where
  nodes : Array Node
  root : Nat
  deriving Repr, Inhabited

/-- The state of composing: the grouping of tokens, an event looked at but
not yet taken, the nodes so far and the anchors named so far, latest first. -/
structure Composer where
  parser : Parser
  pending : Option Event := none
  nodes : Array Node := #[]
  anchors : List (String × Nat) := []
  deriving Inhabited

abbrev Compose := StateT Composer (Except SyntaxError)

def liftParse (x : Parse α) : Compose α := fun c =>
  match x.run c.parser with
  | .ok (a, p) => .ok (a, { c with parser := p })
  | .error e => .error e

def peekEvent : Compose Event := do
  match (← get).pending with
  | some e => pure e
  | none =>
    let e ← liftParse nextEvent
    modify fun c => { c with pending := some e }
    pure e

def takeEvent : Compose Unit := modify fun c => { c with pending := none }

def addNode (n : Node) : Compose Nat := do
  let c ← get
  set { c with nodes := c.nodes.push n }
  return c.nodes.size

def nameAnchor (anchor : String) (id : Nat) : Compose Unit :=
  if anchor.isEmpty then pure () else modify fun c => { c with anchors := (anchor, id) :: c.anchors }

def setContent (id : Nat) (content : Array Nat) : Compose Unit :=
  modify fun c => { c with nodes := c.nodes.modify id fun n => { n with content := content } }

def chooseTag (written fallback : String) (text : Option String) : String :=
  if written ≠ "" && written ≠ "!" then Tag.short written
  else if fallback ≠ "" then fallback
  else match text with
    | some v => (resolveText "" v).tag
    | none => ""

def composeFault (problem : String) : Compose α := throw ⟨.composer, 0, 0, problem⟩

mutual

def composeNode : Nat → Compose Nat
  | 0 => composeFault "document nested too deeply"
  | fuel + 1 => do
    let e ← peekEvent
    let line := e.start.line + 1
    match e.kind with
    | .scalar anchor tag value style =>
      let plain := style == .plain
      let fallback := if !plain then Tag.str else if value == "<<" then Tag.merge else ""
      let id ← addNode { kind := .scalar, tag := chooseTag tag fallback (some value), value, plain, line }
      nameAnchor anchor id
      takeEvent
      pure id
    | .reference name =>
      match (← get).anchors.lookup name with
      | none => composeFault ("unknown anchor '" ++ name ++ "' referenced")
      | some t =>
        let id ← addNode { kind := .reference, value := name, line, target := t }
        takeEvent
        pure id
    | .sequenceStart anchor tag _ =>
      let id ← addNode { kind := .sequence, tag := chooseTag tag Tag.seq none, line }
      nameAnchor anchor id
      takeEvent
      setContent id (← composeItems #[] fuel)
      takeEvent
      pure id
    | .mappingStart anchor tag _ =>
      let id ← addNode { kind := .mapping, tag := chooseTag tag Tag.map none, line }
      nameAnchor anchor id
      takeEvent
      setContent id (← composeItems #[] fuel)
      takeEvent
      pure id
    | _ => composeFault "unexpected event"

def composeItems (acc : Array Nat) : Nat → Compose (Array Nat)
  | 0 => composeFault "document nested too deeply"
  | fuel + 1 => do
    let e ← peekEvent
    if e.kind == .sequenceEnd || e.kind == .mappingEnd then pure acc
    else composeItems (acc.push (← composeNode fuel)) fuel

end

def Document.read (text : String) : Except SyntaxError (Option Document) := do
  let scanner ← Scanner.ofText text
  let fuel := 16 * scanner.input.size + 64
  let first : Compose (Option Nat) := do
    let _ ← peekEvent
    takeEvent
    let e ← peekEvent
    match e.kind with
    | .documentStart =>
      let id ← addNode { kind := .document, line := e.start.line + 1 }
      takeEvent
      let child ← composeNode fuel
      setContent id #[child]
      let _ ← peekEvent
      takeEvent
      pure (some id)
    | _ => pure none
  let (root, c) ← first.run { parser := { scanner } }
  pure (root.map fun r => ⟨c.nodes, r⟩)

def Document.node (d : Document) (i : Nat) : Node := d.nodes.getD i default

end Issuance.Yaml
