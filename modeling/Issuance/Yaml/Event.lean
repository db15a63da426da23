import Issuance.Yaml.Token
/-! # YAML events

Tokens grouped into events by a state machine with a stack of phases; an
omitted key or value is an empty plain scalar. Tags expand through `%TAG`;
only version 1.1 may be declared. -/
namespace Issuance.Yaml

inductive EventKind
  | streamStart
  | streamEnd
  | documentStart
  | documentEnd
  | reference (anchor : String)
  | scalar (anchor tag value : String) (style : ScalarStyle)
  | sequenceStart (anchor tag : String) (flow : Bool)
  | sequenceEnd
  | mappingStart (anchor tag : String) (flow : Bool)
  | mappingEnd
  deriving DecidableEq, Repr, Inhabited

structure Event where
  kind : EventKind
  start : Mark
  deriving Repr, Inhabited

inductive Phase
  | streamStart
  | implicitDocumentStart
  | documentStart
  | documentContent
  | documentEnd
  | blockNode
  | blockNodeOrIndentlessSequence
  | flowNode
  | blockSequenceFirstEntry
  | blockSequenceEntry
  | indentlessSequenceEntry
  | blockMappingFirstKey
  | blockMappingKey
  | blockMappingValue
  | flowSequenceFirstEntry
  | flowSequenceEntry
  | flowSequenceEntryMappingKey
  | flowSequenceEntryMappingValue
  | flowSequenceEntryMappingEnd
  | flowMappingFirstKey
  | flowMappingKey
  | flowMappingValue
  | flowMappingEmptyValue
  | finished
  deriving DecidableEq, Repr, Inhabited

/-- The state of the grouping: the scanner, the phase and the phases to
return to, where each open collection started, and the tag directives of the
current document. -/
structure Parser where
  scanner : Scanner
  phase : Phase := .streamStart
  phases : List Phase := []
  marks : List Mark := []
  tagDirectives : List (String × String) := []
  deriving Inhabited

abbrev Parse := StateT Parser (Except SyntaxError)

def liftScan (x : Scan α) : Parse α := fun p =>
  match x.run p.scanner with
  | .ok (a, s) => .ok (a, { p with scanner := s })
  | .error e => .error e

def peekToken : Parse Token := do
  let p ← get
  if !p.scanner.available then
    liftScan (fetchMoreTokens (4 * p.scanner.input.size + 16))
  let s := (← get).scanner
  return s.tokens.getD s.parsed default

def skipToken : Parse Unit := modify fun p =>
  { p with scanner := { p.scanner with available := false, parsed := p.scanner.parsed + 1 } }

def setPhase (q : Phase) : Parse Unit := modify fun p => { p with phase := q }

def pushPhase (q : Phase) : Parse Unit := modify fun p => { p with phases := q :: p.phases }

def popPhase : Parse Unit := modify fun p =>
  match p.phases with
  | q :: rest => { p with phase := q, phases := rest }
  | [] => { p with phase := .finished }

def pushMark (m : Mark) : Parse Unit := modify fun p => { p with marks := m :: p.marks }

def popMark : Parse Mark := do
  let p ← get
  match p.marks with
  | m :: rest => set { p with marks := rest }; return m
  | [] => return {}

def parseFault (problem : String) (at_ : Mark) : Parse α :=
  throw ⟨.parser, 0, at_.line, problem⟩

def parseFaultIn (context : Mark) (problem : String) (at_ : Mark) : Parse α :=
  throw ⟨.parser, context.line, at_.line, problem⟩

def emptyScalar (m : Mark) : Event := ⟨.scalar "" "" "" .plain, m⟩

def TokenKind.isDirective : TokenKind → Bool
  | .versionDirective .. | .tagDirective .. => true
  | _ => false

def defaultTagDirectives : List (String × String) := [("!", "!"), ("!!", "tag:yaml.org,2002:")]

def declareTag (handle pfx : String) (isDefault : Bool) (m : Mark) : Parse Unit := do
  let p ← get
  if (p.tagDirectives.lookup handle).isSome then
    if isDefault then return
    parseFault "found duplicate %TAG directive" m
  set { p with tagDirectives := p.tagDirectives ++ [(handle, pfx)] }

def processDirectives (version : Bool) : Nat → Parse Unit
  | 0 => pure ()
  | n + 1 => do
    let t ← peekToken
    match t.kind with
    | .versionDirective major minor =>
      if version then parseFault "found duplicate %YAML directive" t.start
      if major ≠ 1 || minor ≠ 1 then parseFault "found incompatible YAML document" t.start
      skipToken
      processDirectives true n
    | .tagDirective handle pfx =>
      declareTag handle pfx false t.start
      skipToken
      processDirectives version n
    | _ =>
      for (h, x) in defaultTagDirectives do declareTag h x true t.start

def tokenFuel : Parse Nat := do return 4 * (← get).scanner.input.size + 16

def parseStreamStart : Parse Event := do
  let t ← peekToken
  if t.kind != .streamStart then parseFault "did not find expected <stream-start>" t.start
  setPhase .implicitDocumentStart
  skipToken
  return ⟨.streamStart, t.start⟩

def skipDocumentEnds : Nat → Parse Token
  | 0 => peekToken
  | n + 1 => do
    let t ← peekToken
    if t.kind == .documentEnd then
      skipToken
      skipDocumentEnds n
    else pure t

def parseDocumentStart (implicit : Bool) : Parse Event := do
  let t ← if implicit then peekToken else skipDocumentEnds (← tokenFuel)
  if implicit && !t.kind.isDirective && t.kind != .documentStart && t.kind != .streamEnd then
    processDirectives false (← tokenFuel)
    pushPhase .documentEnd
    setPhase .blockNode
    return ⟨.documentStart, t.start⟩
  else if t.kind != .streamEnd then
    processDirectives false (← tokenFuel)
    let t' ← peekToken
    if t'.kind != .documentStart then parseFault "did not find expected <document start>" t'.start
    pushPhase .documentEnd
    setPhase .documentContent
    skipToken
    return ⟨.documentStart, t.start⟩
  else
    setPhase .finished
    skipToken
    return ⟨.streamEnd, t.start⟩

/-- A node with its anchor and tag, or a collection start; block
collections only in block context, and `indentless` lets an entry open a
sequence. -/
def parseNode (block indentless : Bool) : Parse Event := do
  let t ← peekToken
  if let .reference name := t.kind then
    popPhase
    skipToken
    return ⟨.reference name, t.start⟩
  let start := t.start
  let (anchor, tagged, t) ← match t.kind with
    | .anchor a => do
      skipToken
      let t ← peekToken
      match t.kind with
      | .tag h s =>
        skipToken
        pure (a, some (h, s, t.start), ← peekToken)
      | _ => pure (a, none, t)
    | .tag h s => do
      skipToken
      let t' ← peekToken
      match t'.kind with
      | .anchor a =>
        skipToken
        pure (a, some (h, s, t.start), ← peekToken)
      | _ => pure ("", some (h, s, t.start), t')
    | _ => pure ("", none, t)
  let tag ← match tagged with
    | none => pure ""
    | some (h, s, tagMark) =>
      if h.isEmpty then pure s
      else
        let full := ((← get).tagDirectives.lookup h).map (· ++ s)
        match full with
        | some f => if f.isEmpty then parseFaultIn start "found undefined tag handle" tagMark else pure f
        | none => parseFaultIn start "found undefined tag handle" tagMark
  if indentless && t.kind == .blockEntry then
    setPhase .indentlessSequenceEntry
    return ⟨.sequenceStart anchor tag false, start⟩
  match t.kind with
  | .scalar v st =>
    popPhase
    skipToken
    return ⟨.scalar anchor tag v st, start⟩
  | .flowSequenceStart =>
    setPhase .flowSequenceFirstEntry
    return ⟨.sequenceStart anchor tag true, start⟩
  | .flowMappingStart =>
    setPhase .flowMappingFirstKey
    return ⟨.mappingStart anchor tag true, start⟩
  | .blockSequenceStart =>
    if block then
      setPhase .blockSequenceFirstEntry
      return ⟨.sequenceStart anchor tag false, start⟩
  | .blockMappingStart =>
    if block then
      setPhase .blockMappingFirstKey
      return ⟨.mappingStart anchor tag false, start⟩
  | _ => pure ()
  if !anchor.isEmpty || !tag.isEmpty then
    popPhase
    return ⟨.scalar anchor tag "" .plain, start⟩
  parseFaultIn start "did not find expected node content" t.start

def openCollection : Parse Unit := do
  pushMark (← peekToken).start
  skipToken

def parseDocumentContent : Parse Event := do
  let t ← peekToken
  if t.kind.isDirective || t.kind == .documentStart || t.kind == .documentEnd || t.kind == .streamEnd then
    popPhase
    return emptyScalar t.start
  parseNode true false

def parseDocumentEnd : Parse Event := do
  let t ← peekToken
  if t.kind == .documentEnd then skipToken
  modify fun p => { p with tagDirectives := [] }
  setPhase .documentStart
  return ⟨.documentEnd, t.start⟩

def parseBlockSequenceEntry (first : Bool) : Parse Event := do
  if first then openCollection
  let t ← peekToken
  if t.kind == .blockEntry then
    skipToken
    let t' ← peekToken
    if t'.kind != .blockEntry && t'.kind != .blockEnd then
      pushPhase .blockSequenceEntry
      parseNode true false
    else
      setPhase .blockSequenceEntry
      return emptyScalar t.stop
  else if t.kind == .blockEnd then
    popPhase
    let _ ← popMark
    skipToken
    return ⟨.sequenceEnd, t.start⟩
  else
    parseFaultIn (← popMark) "did not find expected '-' indicator" t.start

def parseIndentlessSequenceEntry : Parse Event := do
  let t ← peekToken
  if t.kind == .blockEntry then
    skipToken
    let t' ← peekToken
    if t'.kind != .blockEntry && t'.kind != .key && t'.kind != .value && t'.kind != .blockEnd then
      pushPhase .indentlessSequenceEntry
      parseNode true false
    else
      setPhase .indentlessSequenceEntry
      return emptyScalar t.stop
  else
    popPhase
    return ⟨.sequenceEnd, t.start⟩

def parseBlockMappingKey (first : Bool) : Parse Event := do
  if first then openCollection
  let t ← peekToken
  if t.kind == .key then
    skipToken
    let t' ← peekToken
    if t'.kind != .key && t'.kind != .value && t'.kind != .blockEnd then
      pushPhase .blockMappingValue
      parseNode true true
    else
      setPhase .blockMappingValue
      return emptyScalar t.stop
  else if t.kind == .blockEnd then
    popPhase
    let _ ← popMark
    skipToken
    return ⟨.mappingEnd, t.start⟩
  else
    parseFaultIn (← popMark) "did not find expected key" t.start

def parseBlockMappingValue : Parse Event := do
  let t ← peekToken
  if t.kind == .value then
    skipToken
    let t' ← peekToken
    if t'.kind != .key && t'.kind != .value && t'.kind != .blockEnd then
      pushPhase .blockMappingKey
      parseNode true true
    else
      setPhase .blockMappingKey
      return emptyScalar t.stop
  else
    setPhase .blockMappingKey
    return emptyScalar t.start

def closeFlow (kind : EventKind) : Parse Event := do
  let t ← peekToken
  popPhase
  let _ ← popMark
  skipToken
  return ⟨kind, t.start⟩

def parseFlowSequenceEntry (first : Bool) : Parse Event := do
  if first then openCollection
  let t ← peekToken
  if t.kind == .flowSequenceEnd then return ← closeFlow .sequenceEnd
  let t ← if first then pure t
    else if t.kind == .flowEntry then do
      skipToken
      peekToken
    else parseFaultIn (← popMark) "did not find expected ',' or ']'" t.start
  if t.kind == .key then
    setPhase .flowSequenceEntryMappingKey
    skipToken
    return ⟨.mappingStart "" "" true, t.start⟩
  else if t.kind != .flowSequenceEnd then
    pushPhase .flowSequenceEntry
    parseNode false false
  else closeFlow .sequenceEnd

def parseFlowSequenceEntryMappingKey : Parse Event := do
  let t ← peekToken
  if t.kind != .value && t.kind != .flowEntry && t.kind != .flowSequenceEnd then
    pushPhase .flowSequenceEntryMappingValue
    parseNode false false
  else
    skipToken
    setPhase .flowSequenceEntryMappingValue
    return emptyScalar t.stop

def parseFlowSequenceEntryMappingValue : Parse Event := do
  let t ← peekToken
  if t.kind == .value then
    skipToken
    let t' ← peekToken
    if t'.kind != .flowEntry && t'.kind != .flowSequenceEnd then
      pushPhase .flowSequenceEntryMappingEnd
      return ← parseNode false false
  setPhase .flowSequenceEntryMappingEnd
  return emptyScalar t.start

def parseFlowSequenceEntryMappingEnd : Parse Event := do
  let t ← peekToken
  setPhase .flowSequenceEntry
  return ⟨.mappingEnd, t.start⟩

def parseFlowMappingKey (first : Bool) : Parse Event := do
  if first then openCollection
  let t ← peekToken
  if t.kind == .flowMappingEnd then return ← closeFlow .mappingEnd
  let t ← if first then pure t
    else if t.kind == .flowEntry then do
      skipToken
      peekToken
    else parseFaultIn (← popMark) "did not find expected ',' or '\x7d'" t.start
  if t.kind == .key then
    skipToken
    let t' ← peekToken
    if t'.kind != .value && t'.kind != .flowEntry && t'.kind != .flowMappingEnd then
      pushPhase .flowMappingValue
      parseNode false false
    else
      setPhase .flowMappingValue
      return emptyScalar t'.start
  else if t.kind != .flowMappingEnd then
    pushPhase .flowMappingEmptyValue
    parseNode false false
  else closeFlow .mappingEnd

def parseFlowMappingValue (empty : Bool) : Parse Event := do
  let t ← peekToken
  if empty then
    setPhase .flowMappingKey
    return emptyScalar t.start
  if t.kind == .value then
    skipToken
    let t' ← peekToken
    if t'.kind != .flowEntry && t'.kind != .flowMappingEnd then
      pushPhase .flowMappingKey
      return ← parseNode false false
    setPhase .flowMappingKey
    return emptyScalar t'.start
  setPhase .flowMappingKey
  return emptyScalar t.start

def nextEvent : Parse Event := do
  match (← get).phase with
  | .streamStart => parseStreamStart
  | .implicitDocumentStart => parseDocumentStart true
  | .documentStart => parseDocumentStart false
  | .documentContent => parseDocumentContent
  | .documentEnd => parseDocumentEnd
  | .blockNode => parseNode true false
  | .blockNodeOrIndentlessSequence => parseNode true true
  | .flowNode => parseNode false false
  | .blockSequenceFirstEntry => parseBlockSequenceEntry true
  | .blockSequenceEntry => parseBlockSequenceEntry false
  | .indentlessSequenceEntry => parseIndentlessSequenceEntry
  | .blockMappingFirstKey => parseBlockMappingKey true
  | .blockMappingKey => parseBlockMappingKey false
  | .blockMappingValue => parseBlockMappingValue
  | .flowSequenceFirstEntry => parseFlowSequenceEntry true
  | .flowSequenceEntry => parseFlowSequenceEntry false
  | .flowSequenceEntryMappingKey => parseFlowSequenceEntryMappingKey
  | .flowSequenceEntryMappingValue => parseFlowSequenceEntryMappingValue
  | .flowSequenceEntryMappingEnd => parseFlowSequenceEntryMappingEnd
  | .flowMappingFirstKey => parseFlowMappingKey true
  | .flowMappingKey => parseFlowMappingKey false
  | .flowMappingValue => parseFlowMappingValue false
  | .flowMappingEmptyValue => parseFlowMappingValue true
  | .finished => return ⟨.streamEnd, (← get).scanner.mark⟩

end Issuance.Yaml
