/-! # Scanning YAML

Indentation opens and closes block collections. Each place a simple key
may start is remembered, and at its colon a key token is put in there; a
simple key is on one line within 1024 characters. Tokens are made at least
three ahead; a tab never indents. -/
namespace Issuance.Yaml

structure Mark where
  index : Nat := 0
  line : Nat := 0
  column : Nat := 0
  deriving DecidableEq, Repr, Inhabited

inductive ScalarStyle
  | plain
  | singleQuoted
  | doubleQuoted
  | literal
  | folded
  deriving DecidableEq, Repr, Inhabited

inductive TokenKind
  | streamStart
  | streamEnd
  | versionDirective (major minor : Nat)
  | tagDirective (handle pfx : String)
  | documentStart
  | documentEnd
  | blockSequenceStart
  | blockMappingStart
  | blockEnd
  | flowSequenceStart
  | flowSequenceEnd
  | flowMappingStart
  | flowMappingEnd
  | blockEntry
  | flowEntry
  | key
  | value
  | reference (name : String)
  | anchor (name : String)
  | tag (handle suffix : String)
  | scalar (text : String) (style : ScalarStyle)
  deriving DecidableEq, Repr, Inhabited

structure Token where
  kind : TokenKind
  start : Mark
  stop : Mark
  deriving Repr, Inhabited

/-- The stage of reading that finds a fault: decoding characters, making
tokens, putting tokens together into events, or joining events into nodes. -/
inductive Stage
  | reader
  | scanner
  | parser
  | composer
  deriving DecidableEq, Repr

structure SyntaxError where
  stage : Stage
  contextLine : Nat
  problemLine : Nat
  problem : String
  deriving Repr

def SyntaxError.message (e : SyntaxError) : String :=
  let line := if e.contextLine ≠ 0 then e.contextLine else e.problemLine
  let shown := match e.stage with
    | .scanner => if line = 0 then 0 else line + 1
    | .parser => line
    | .reader | .composer => 0
  if shown = 0 then "yaml: " ++ e.problem else "yaml: line " ++ toString shown ++ ": " ++ e.problem

def endChar : Char := Char.ofNat 0

def isBreak (c : Char) : Bool :=
  c = '\r' || c = '\n' || c.toNat = 0x85 || c.toNat = 0x2028 || c.toNat = 0x2029

def isBlank (c : Char) : Bool := c = ' ' || c = '\t'

def isEnd (c : Char) : Bool := c = endChar

def isBlankOrEnd (c : Char) : Bool := isBlank c || isBreak c || isEnd c

def isBreakOrEnd (c : Char) : Bool := isBreak c || isEnd c

def isWordChar (c : Char) : Bool := c.isAlphanum || c = '_' || c = '-'

def hexDigit? (c : Char) : Option Nat :=
  if c.isDigit then some (c.toNat - 48)
  else if 'a' ≤ c && c ≤ 'f' then some (c.toNat - 87)
  else if 'A' ≤ c && c ≤ 'F' then some (c.toNat - 55)
  else none

structure SimpleKey where
  possible : Bool := false
  required : Bool := false
  tokenNumber : Nat := 0
  mark : Mark := {}
  deriving Repr, Inhabited

structure Scanner where
  input : Array Char
  mark : Mark := {}
  tokens : Array Token := #[]
  parsed : Nat := 0
  available : Bool := false
  indent : Int := -1
  indents : List Int := []
  keyAllowed : Bool := false
  keys : Array SimpleKey := #[]
  keysByToken : List (Nat × Nat) := []
  flowLevel : Nat := 0
  started : Bool := false
  newlines : Nat := 0
  deriving Inhabited

abbrev Scan := StateT Scanner (Except SyntaxError)

namespace Scanner

def ahead (s : Scanner) (k : Nat) : Char := s.input.getD (s.mark.index + k) endChar

def step (s : Scanner) : Scanner :=
  { s with mark := { s.mark with index := s.mark.index + 1, column := s.mark.column + 1 }
           newlines := if isBlank (s.ahead 0) then s.newlines else 0 }

def stepLine (s : Scanner) : Scanner :=
  let width := if s.ahead 0 = '\r' && s.ahead 1 = '\n' then 2 else 1
  { s with mark := ⟨s.mark.index + width, s.mark.line + 1, 0⟩, newlines := s.newlines + 1 }

def atIndicator (s : Scanner) (c : Char) : Bool :=
  s.ahead 0 = c && s.ahead 1 = c && s.ahead 2 = c && isBlankOrEnd (s.ahead 3)

def left (s : Scanner) : Nat := s.input.size - s.mark.index

end Scanner

def look (k : Nat) : Scan Char := do return (← get).ahead k

def skip : Scan Unit := modify Scanner.step

def skipLine : Scan Unit := modify fun s => if isBreak (s.ahead 0) then s.stepLine else s

def readChar (acc : String) : Scan String := do
  let c ← look 0
  skip
  return acc.push c

def readBreak (acc : String) : Scan String := do
  let c ← look 0
  if !isBreak c then return acc
  modify Scanner.stepLine
  return acc.push (if c.toNat = 0x2028 || c.toNat = 0x2029 then c else '\n')

def scanFault (context : Mark) (problem : String) : Scan α := do
  throw ⟨.scanner, context.line, (← get).mark.line, problem⟩

def enqueue (before : Option Nat) (t : Token) : Scan Unit := modify fun s =>
  match before with
  | none => { s with tokens := s.tokens.push t }
  | some i => { s with tokens := s.tokens.insertIdxIfInBounds i t }

def skipWhile (p : Scanner → Bool) : Nat → Scan Unit
  | 0 => pure ()
  | fuel + 1 => do
    if p (← get) then
      skip
      skipWhile p fuel

def readWhile (p : Char → Bool) (acc : String) : Nat → Scan String
  | 0 => pure acc
  | fuel + 1 => do
    let c ← look 0
    if p c then
      skip
      readWhile p (acc.push c) fuel
    else pure acc

def fuel : Scan Nat := do return (← get).left + 2

def skipBlanks : Scan Unit := do skipWhile (fun s => isBlank (s.ahead 0)) (← fuel)

def skipToBreak : Scan Unit := do skipWhile (fun s => !isBreakOrEnd (s.ahead 0)) (← fuel)

/-! ## Simple keys and indentation -/

def removeSimpleKey : Scan Unit := do
  let s ← get
  let i := s.keys.size - 1
  let k := s.keys.getD i {}
  if k.possible then
    if k.required then scanFault k.mark "could not find expected ':'"
    set { s with keys := s.keys.set! i { k with possible := false }
                 keysByToken := s.keysByToken.filter (·.1 != k.tokenNumber) }

def saveSimpleKey : Scan Unit := do
  let s ← get
  if s.keyAllowed then
    let key : SimpleKey :=
      ⟨true, s.flowLevel == 0 && s.indent == (s.mark.column : Int), s.tokens.size, s.mark⟩
    removeSimpleKey
    modify fun s =>
      let i := s.keys.size - 1
      { s with keys := s.keys.set! i key
               keysByToken := (key.tokenNumber, i) :: s.keysByToken.filter (·.1 != key.tokenNumber) }

def keyStillPossible (i : Nat) : Scan Bool := do
  let s ← get
  let k := s.keys.getD i {}
  if !k.possible then return false
  if k.mark.line < s.mark.line || k.mark.index + 1024 < s.mark.index then
    if k.required then scanFault k.mark "could not find expected ':'"
    set { s with keys := s.keys.set! i { k with possible := false } }
    return false
  return true

def increaseFlowLevel : Scan Unit := do
  modify fun s => { s with keys := s.keys.push { mark := s.mark }, flowLevel := s.flowLevel + 1 }
  let s ← get
  if s.flowLevel > 10000 then scanFault s.mark "exceeded max depth of 10000"

def decreaseFlowLevel : Scan Unit := modify fun s =>
  if s.flowLevel = 0 then s else
  let gone := (s.keys.back?.map (·.tokenNumber)).getD 0
  { s with flowLevel := s.flowLevel - 1, keys := s.keys.pop
           keysByToken := s.keysByToken.filter (·.1 != gone) }

def rollIndent (column : Int) (before : Option Nat) (kind : TokenKind) (mark : Mark) : Scan Unit := do
  let s ← get
  if s.flowLevel = 0 && s.indent < column then
    set { s with indents := s.indent :: s.indents, indent := column }
    if s.indents.length + 1 > 10000 then
      scanFault ((s.keys.back?.map (·.mark)).getD {}) "exceeded max depth of 10000"
    enqueue before ⟨kind, mark, mark⟩

def unrollTo (column : Int) (m : Mark) : Nat → Scan Unit
  | 0 => pure ()
  | n + 1 => do
    let s ← get
    if s.indent > column then
      enqueue none ⟨.blockEnd, m, m⟩
      modify fun s => match s.indents with
        | i :: rest => { s with indent := i, indents := rest }
        | [] => { s with indent := -1 }
      unrollTo column m n

def unrollIndent (column : Int) (scanMark : Mark) : Scan Unit := do
  let s ← get
  if s.flowLevel = 0 then
    unrollTo column { scanMark with index := scanMark.index - 1 } (s.indents.length + 1)

/-! ## Comments and gaps -/

def firstFilled (s : Scanner) : Nat → Nat → Option Nat
  | 0, _ => none
  | n + 1, k => if k ≥ 512 then none else if isBlank (s.ahead k) then firstFilled s n (k + 1) else some k

def consumeComment (seen : Nat) : Nat → Scan Unit
  | 0 => pure ()
  | n + 1 => do
    let s ← get
    let c := s.ahead 0
    if isBreakOrEnd c then
      if s.mark.index ≥ seen then pure () else
      skipLine
      consumeComment seen n
    else
      skip
      consumeComment seen n

/-- The offset of the next comment from `k`, past blanks and breaks, within
512 characters; it stops at anything else, the end, or a flow's closing
bracket. -/
def nextComment (s : Scanner) : Nat → Nat → Option Nat
  | 0, _ => none
  | n + 1, k =>
    if k ≥ 512 then none else
    let c := s.ahead k
    if isBlank c then nextComment s n (k + 1)
    else if (s.flowLevel > 0 && (c = ']' || c = '}')) || isBreakOrEnd c then
      if isBreak c then nextComment s n (k + 1) else none
    else if c = '#' then some k
    else none

def skipComments : Nat → Nat → Scan Unit
  | 0, _ => pure ()
  | n + 1, from_ => do
    let s ← get
    match nextComment s 513 from_ with
    | some k =>
      consumeComment (s.mark.index + k) (s.left + k + 2)
      skipComments n 1
    | none => pure ()

def scanLineComment : Scan Unit := do
  let s ← get
  if s.newlines > 0 then return
  match firstFilled s 513 0 with
  | some k =>
    if s.ahead k = '#' then consumeComment (s.mark.index + k) (s.left + k + 2)
  | none => pure ()

def scanToNextToken : Nat → Scan Unit
  | 0 => pure ()
  | n + 1 => do
    let s ← get
    if s.mark.column = 0 && (s.ahead 0).toNat = 0xFEFF then skip
    skipWhile (fun s => s.ahead 0 = ' ' || ((s.flowLevel > 0 || !s.keyAllowed) && s.ahead 0 = '\t')) (← fuel)
    if (← look 0) = '#' then skipComments (← fuel) 0
    if isBreak (← look 0) then
      skipLine
      if (← get).flowLevel = 0 then modify fun s => { s with keyAllowed := true }
      scanToNextToken n

/-! ## Directives, anchors and tags -/

def versionNumber (start : Mark) : Scan Nat := do
  let ds ← readWhile Char.isDigit "" 3
  if ds.length > 2 then scanFault start "found extremely long version number"
  if ds.isEmpty then scanFault start "did not find expected version directive number"
  return ds.foldl (fun acc c => acc * 10 + (c.toNat - 48)) 0

def scanTagHandle (directive : Bool) (start : Mark) : Scan String := do
  if (← look 0) ≠ '!' then scanFault start "did not find expected '!'"
  let s ← readChar ""
  let s ← readWhile isWordChar s (← fuel)
  if (← look 0) = '!' then readChar s
  else if directive && s != "!" then scanFault start "did not find expected '!'"
  else pure s

def utf8Width (b : Nat) : Nat :=
  if b < 0x80 then 1 else if b &&& 0xE0 = 0xC0 then 2 else if b &&& 0xF0 = 0xE0 then 3
  else if b &&& 0xF8 = 0xF0 then 4 else 0

def uriEscapes (start : Mark) (acc : List Nat) (width : Option Nat) : Nat → Scan (List Nat)
  | 0 => pure acc
  | n + 1 => do
    if width = some 0 then return acc
    let s ← get
    match s.ahead 0, hexDigit? (s.ahead 1), hexDigit? (s.ahead 2) with
    | '%', some h, some l =>
      let octet := h * 16 + l
      let width ← match width with
        | none =>
          let w := utf8Width octet
          if w = 0 then scanFault start "found an incorrect leading UTF-8 octet" else pure w
        | some w =>
          if octet &&& 0xC0 ≠ 0x80 then scanFault start "found an incorrect trailing UTF-8 octet" else pure w
      skip; skip; skip
      uriEscapes start (acc ++ [octet]) (some (width - 1)) n
    | _, _, _ => scanFault start "did not find URI escaped octet"

def isUriChar (c : Char) : Bool :=
  isWordChar c || [';', '/', '?', ':', '@', '&', '=', '+', '$', ',', '.', '!', '~', '*', '\'', '(', ')',
    '[', ']', '%'].contains c

def tagUriChars (start : Mark) (acc : String) (found : Bool) : Nat → Scan (String × Bool)
  | 0 => pure (acc, found)
  | n + 1 => do
    let c ← look 0
    if !isUriChar c then return (acc, found)
    if c = '%' then
      let bytes ← uriEscapes start [] none 5
      let text := (String.fromUTF8? (ByteArray.mk (bytes.map (·.toUInt8)).toArray)).getD (String.singleton (Char.ofNat 0xFFFD))
      tagUriChars start (acc ++ text) true n
    else
      skip
      tagUriChars start (acc.push c) true n

def scanTagUri (head : String) (start : Mark) : Scan String := do
  let (s, found) ← tagUriChars start (String.ofList (head.toList.drop 1)) (!head.isEmpty) (← fuel)
  if !found then scanFault start "did not find expected tag URI"
  return s

def scanDirective : Scan Token := do
  let start := (← get).mark
  skip
  let name ← readWhile isWordChar "" (← fuel)
  if name.isEmpty then scanFault start "could not find expected directive name"
  if !isBlankOrEnd (← look 0) then scanFault start "found unexpected non-alphabetical character"
  let kind ←
    if name = "YAML" then do
      skipBlanks
      let major ← versionNumber start
      if (← look 0) ≠ '.' then scanFault start "did not find expected digit or '.' character"
      skip
      let minor ← versionNumber start
      pure (TokenKind.versionDirective major minor)
    else if name = "TAG" then do
      skipBlanks
      let handle ← scanTagHandle true start
      if !isBlank (← look 0) then scanFault start "did not find expected whitespace"
      skipBlanks
      let pfx ← scanTagUri "" start
      if !isBlankOrEnd (← look 0) then scanFault start "did not find expected whitespace or line break"
      pure (TokenKind.tagDirective handle pfx)
    else scanFault start "found unknown directive name"
  let stop := (← get).mark
  skipBlanks
  if (← look 0) = '#' then skipToBreak
  if !isBreakOrEnd (← look 0) then scanFault start "did not find expected comment or line break"
  skipLine
  return ⟨kind, start, stop⟩

def scanAnchor (isAlias : Bool) : Scan Token := do
  let start := (← get).mark
  skip
  let name ← readWhile isWordChar "" (← fuel)
  let c ← look 0
  if name.isEmpty || !(isBlankOrEnd c || ['?', ':', ',', ']', '}', '%', '@'].contains c || c.toNat = 96) then
    scanFault start "did not find expected alphabetic or numeric character"
  return ⟨if isAlias then .reference name else .anchor name, start, (← get).mark⟩

def scanTag : Scan Token := do
  let start := (← get).mark
  let (handle, suffix) ←
    if (← look 1) = '<' then do
      skip; skip
      let suffix ← scanTagUri "" start
      if (← look 0) ≠ '>' then scanFault start "did not find the expected '>'"
      skip
      pure ("", suffix)
    else do
      let handle ← scanTagHandle false start
      if handle.length > 1 && handle.front = '!' && handle.back = '!' then
        pure (handle, ← scanTagUri "" start)
      else
        let suffix ← scanTagUri handle start
        if suffix.isEmpty then pure ("", "!") else pure ("!", suffix)
  let s ← get
  let c := s.ahead 0
  if !isBlankOrEnd c && (s.flowLevel = 0 || c ≠ ',') then
    scanFault start "did not find expected whitespace or line break"
  return ⟨.tag handle suffix, start, s.mark⟩

/-! ## Scalars -/

/-- The indentation and empty lines before a block scalar line: the breaks,
the indentation (from the deepest such line if unknown) and where they end. -/
def blockBreaks (start : Mark) (indent : Int) (breaks : String) (stop : Mark) (deepest : Nat) :
    Nat → Scan (Int × String × Mark)
  | 0 => pure (indent, breaks, stop)
  | n + 1 => do
    skipWhile (fun s => (indent == 0 || (s.mark.column : Int) < indent) && s.ahead 0 = ' ') (← fuel)
    let s ← get
    let deepest := max deepest s.mark.column
    if (indent == 0 || (s.mark.column : Int) < indent) && s.ahead 0 = '\t' then
      scanFault start "found a tab character where an indentation space is expected"
    if !isBreak (s.ahead 0) then
      let indent := if indent ≠ 0 then indent else max (max (deepest : Int) (s.indent + 1)) 1
      return (indent, breaks, stop)
    let breaks ← readBreak breaks
    blockBreaks start indent breaks (← get).mark deepest n

def blockLines (start : Mark) (literal : Bool) (indent : Int) (text leading : String) (leadingBlank : Bool)
    (trailing : String) (stop : Mark) : Nat → Scan (String × String × String × Mark)
  | 0 => pure (text, leading, trailing, stop)
  | n + 1 => do
    let s ← get
    if (s.mark.column : Int) ≠ indent || isEnd (s.ahead 0) then return (text, leading, trailing, stop)
    let trailingBlank := isBlank (s.ahead 0)
    let text :=
      if !literal && !leadingBlank && !trailingBlank && leading.front = '\n' && !leading.isEmpty then
        if trailing.isEmpty then text.push ' ' else text
      else text ++ leading
    let text := text ++ trailing
    let leadingBlank := isBlank (s.ahead 0)
    let text ← readWhile (fun c => !isBreakOrEnd c) text (← fuel)
    let leading ← readBreak ""
    let (indent, trailing, stop) ← blockBreaks start indent "" (← get).mark 0 (← fuel)
    blockLines start literal indent text leading leadingBlank trailing stop n

def scanBlockScalar (literal : Bool) : Scan Token := do
  let start := (← get).mark
  skip
  let c ← look 0
  let (chomping, increment) ←
    if c = '+' || c = '-' then do
      skip
      let d ← look 0
      if d.isDigit then
        if d = '0' then scanFault start "found an indentation indicator equal to 0"
        skip
        pure ((if c = '+' then 1 else -1 : Int), d.toNat - 48)
      else pure ((if c = '+' then 1 else -1 : Int), 0)
    else if c.isDigit then do
      if c = '0' then scanFault start "found an indentation indicator equal to 0"
      skip
      let d ← look 0
      if d = '+' || d = '-' then
        skip
        pure ((if d = '+' then 1 else -1 : Int), c.toNat - 48)
      else pure (0, c.toNat - 48)
    else pure (0, 0)
  skipBlanks
  if (← look 0) = '#' then skipToBreak
  if !isBreakOrEnd (← look 0) then scanFault start "did not find expected comment or line break"
  skipLine
  let s ← get
  let indent : Int := if increment = 0 then 0 else if s.indent ≥ 0 then s.indent + increment else increment
  let (indent, trailing, stop) ← blockBreaks start indent "" s.mark 0 (← fuel)
  let (text, leading, trailing, stop) ← blockLines start literal indent "" "" false trailing stop (← fuel)
  let text := if chomping ≠ -1 then text ++ leading else text
  let text := if chomping = 1 then text ++ trailing else text
  return ⟨.scalar text (if literal then .literal else .folded), start, stop⟩

def escapeCode (start : Mark) (width : Nat) : Scan Char := do
  let s ← get
  let digits := (List.range width).map fun k => hexDigit? (s.ahead k)
  match digits.mapM id with
  | none => scanFault start "did not find expected hexdecimal number"
  | some ds =>
    let v := ds.foldl (fun acc d => acc * 16 + d) 0
    if (0xD800 ≤ v && v ≤ 0xDFFF) || v > 0x10FFFF then
      scanFault start "found invalid Unicode character escape code"
    for _ in List.range width do skip
    return Char.ofNat v

def simpleEscape (c : Char) : Option Char :=
  match c with
  | '0' => some (Char.ofNat 0)
  | 'a' => some (Char.ofNat 7)
  | 'b' => some (Char.ofNat 8)
  | 't' | '\t' => some '\t'
  | 'n' => some '\n'
  | 'v' => some (Char.ofNat 11)
  | 'f' => some (Char.ofNat 12)
  | 'r' => some '\r'
  | 'e' => some (Char.ofNat 27)
  | ' ' => some ' '
  | '"' => some '"'
  | '\'' => some '\''
  | '\\' => some '\\'
  | 'N' => some (Char.ofNat 0x85)
  | '_' => some (Char.ofNat 0xA0)
  | 'L' => some (Char.ofNat 0x2028)
  | 'P' => some (Char.ofNat 0x2029)
  | _ => none

/-- The characters of a quoted scalar up to a blank, a break, its closing
quote or an escaped line break; whether an escaped line break was passed. -/
def quotedRun (start : Mark) (single : Bool) (text : String) : Nat → Scan (String × Bool)
  | 0 => pure (text, false)
  | n + 1 => do
    let s ← get
    let c := s.ahead 0
    if isBlankOrEnd c then return (text, false)
    if single && c = '\'' && s.ahead 1 = '\'' then
      skip; skip
      quotedRun start single (text.push '\'') n
    else if single && c = '\'' then return (text, false)
    else if !single && c = '"' then return (text, false)
    else if !single && c = '\\' && isBreak (s.ahead 1) then
      skip
      skipLine
      return (text, true)
    else if !single && c = '\\' then
      let e := s.ahead 1
      let width := if e = 'x' then 2 else if e = 'u' then 4 else if e = 'U' then 8 else 0
      match simpleEscape e with
      | some ch =>
        skip; skip
        quotedRun start single (text.push ch) n
      | none =>
        if width = 0 then scanFault start "found unknown escape character"
        skip; skip
        let ch ← escapeCode start width
        quotedRun start single (text.push ch) n
    else
      skip
      quotedRun start single (text.push c) n

def scalarGap (start : Mark) (tabLimit : Option Int) (spaces leading trailing : String) (broke : Bool) :
    Nat → Scan (String × String × String × Bool)
  | 0 => pure (spaces, leading, trailing, broke)
  | n + 1 => do
    let s ← get
    let c := s.ahead 0
    if isBlank c then
      if let some limit := tabLimit then
        if broke && (s.mark.column : Int) < limit && c = '\t' then
          scanFault start "found a tab character that violates indentation"
      if !broke then
        let spaces ← readChar spaces
        scalarGap start tabLimit spaces leading trailing broke n
      else
        skip
        scalarGap start tabLimit spaces leading trailing broke n
    else if isBreak c then
      if !broke then
        let leading ← readBreak ""
        scalarGap start tabLimit "" leading trailing true n
      else
        let trailing ← readBreak trailing
        scalarGap start tabLimit spaces leading trailing broke n
    else pure (spaces, leading, trailing, broke)

def joinGap (spaces leading trailing : String) (broke : Bool) : String :=
  if broke then
    if !leading.isEmpty && leading.front = '\n' then
      if trailing.isEmpty then " " else trailing
    else leading ++ trailing
  else spaces

def quotedBody (start : Mark) (single : Bool) (text : String) : Nat → Scan String
  | 0 => pure text
  | n + 1 => do
    let s ← get
    if s.mark.column = 0 && (s.atIndicator '-' || s.atIndicator '.') then
      scanFault start "found unexpected document indicator"
    if isEnd (s.ahead 0) then scanFault start "found unexpected end of stream"
    let (text, escapedBreak) ← quotedRun start single text (← fuel)
    let c ← look 0
    if (single && c = '\'') || (!single && c = '"') then return text
    let (spaces, leading, trailing, broke) ← scalarGap start none "" "" "" escapedBreak (← fuel)
    quotedBody start single (text ++ joinGap spaces leading trailing broke) n

def scanFlowScalar (single : Bool) : Scan Token := do
  let start := (← get).mark
  skip
  let text ← quotedBody start single "" (← fuel)
  skip
  return ⟨.scalar text (if single then .singleQuoted else .doubleQuoted), start, (← get).mark⟩

def endsPlain (s : Scanner) (c : Char) : Bool :=
  (c = ':' && isBlankOrEnd (s.ahead 1)) ||
    (s.flowLevel > 0 && (c = ',' || c = '?' || c = '[' || c = ']' || c = '{' || c = '}'))

def plainRun (spaces leading trailing : String) (broke : Bool) (text : String) (stop : Mark) :
    Nat → Scan (String × String × String × String × Bool × Mark)
  | 0 => pure (text, spaces, leading, trailing, broke, stop)
  | n + 1 => do
    let s ← get
    let c := s.ahead 0
    if isBlankOrEnd c || endsPlain s c then return (text, spaces, leading, trailing, broke, stop)
    let text := if broke || !spaces.isEmpty then text ++ joinGap spaces leading trailing broke else text
    let text ← readChar text
    plainRun "" "" "" false text (← get).mark n

def plainBody (start : Mark) (indent : Int) (text spaces leading trailing : String) (broke : Bool)
    (stop : Mark) : Nat → Scan (String × Bool × Mark)
  | 0 => pure (text, broke, stop)
  | n + 1 => do
    let s ← get
    if s.mark.column = 0 && (s.atIndicator '-' || s.atIndicator '.') then return (text, broke, stop)
    if s.ahead 0 = '#' then return (text, broke, stop)
    let (text, spaces, leading, trailing, broke, stop) ← plainRun spaces leading trailing broke text stop (← fuel)
    let c ← look 0
    if !(isBlank c || isBreak c) then return (text, broke, stop)
    let (spaces, leading, trailing, broke) ← scalarGap start (some indent) spaces leading trailing broke (← fuel)
    let s ← get
    if s.flowLevel = 0 && (s.mark.column : Int) < indent then return (text, broke, stop)
    plainBody start indent text spaces leading trailing broke stop n

def scanPlainScalar : Scan Token := do
  let s ← get
  let start := s.mark
  let (text, broke, stop) ← plainBody start (s.indent + 1) "" "" "" "" false start (← fuel)
  if broke then modify fun s => { s with keyAllowed := true }
  return ⟨.scalar text .plain, start, stop⟩

/-! ## Tokens -/

def fetchStreamStart : Scan Unit := modify fun s =>
  { s with indent := -1, keys := #[{}], keysByToken := [], keyAllowed := true, started := true
           tokens := s.tokens.push ⟨.streamStart, s.mark, s.mark⟩ }

def fetchStreamEnd : Scan Unit := do
  modify fun s =>
    if s.mark.column = 0 then s else { s with mark := { s.mark with column := 0, line := s.mark.line + 1 } }
  unrollIndent (-1) (← get).mark
  removeSimpleKey
  modify fun s => { s with keyAllowed := false }
  let s ← get
  enqueue none ⟨.streamEnd, s.mark, s.mark⟩

def fetchLineMarker (marker : Scan Token) : Scan Unit := do
  unrollIndent (-1) (← get).mark
  removeSimpleKey
  modify fun s => { s with keyAllowed := false }
  enqueue none (← marker)

def documentMarker (kind : TokenKind) : Scan Token := do
  let start := (← get).mark
  skip; skip; skip
  return ⟨kind, start, (← get).mark⟩

def indicator (kind : TokenKind) : Scan Unit := do
  let start := (← get).mark
  skip
  enqueue none ⟨kind, start, (← get).mark⟩

def fetchFlowCollectionStart (kind : TokenKind) : Scan Unit := do
  saveSimpleKey
  increaseFlowLevel
  modify fun s => { s with keyAllowed := true }
  indicator kind

def fetchFlowCollectionEnd (kind : TokenKind) : Scan Unit := do
  removeSimpleKey
  decreaseFlowLevel
  modify fun s => { s with keyAllowed := false }
  indicator kind

def fetchFlowEntry : Scan Unit := do
  removeSimpleKey
  modify fun s => { s with keyAllowed := true }
  indicator .flowEntry

def fetchBlockEntry : Scan Unit := do
  let s ← get
  if s.flowLevel = 0 then
    if !s.keyAllowed then scanFault s.mark "block sequence entries are not allowed in this context"
    rollIndent s.mark.column none .blockSequenceStart s.mark
  removeSimpleKey
  modify fun s => { s with keyAllowed := true }
  indicator .blockEntry

def fetchKey : Scan Unit := do
  let s ← get
  if s.flowLevel = 0 then
    if !s.keyAllowed then scanFault s.mark "mapping keys are not allowed in this context"
    rollIndent s.mark.column none .blockMappingStart s.mark
  removeSimpleKey
  modify fun s => { s with keyAllowed := s.flowLevel = 0 }
  indicator .key

def fetchValue : Scan Unit := do
  let i := (← get).keys.size - 1
  if ← keyStillPossible i then
    let k := (← get).keys.getD i {}
    enqueue (some k.tokenNumber) ⟨.key, k.mark, k.mark⟩
    rollIndent k.mark.column (some k.tokenNumber) .blockMappingStart k.mark
    modify fun s => { s with keys := s.keys.set! i { k with possible := false }
                             keysByToken := s.keysByToken.filter (·.1 != k.tokenNumber), keyAllowed := false }
  else
    let s ← get
    if s.flowLevel = 0 then
      if !s.keyAllowed then scanFault s.mark "mapping values are not allowed in this context"
      rollIndent s.mark.column none .blockMappingStart s.mark
    modify fun s => { s with keyAllowed := s.flowLevel = 0 }
  indicator .value

def fetchKeyCandidate (scan : Scan Token) : Scan Unit := do
  saveSimpleKey
  modify fun s => { s with keyAllowed := false }
  enqueue none (← scan)

def fetchBlockScalar (literal : Bool) : Scan Unit := do
  removeSimpleKey
  modify fun s => { s with keyAllowed := true }
  enqueue none (← scanBlockScalar literal)

def startsPlain (s : Scanner) (c : Char) : Bool :=
  let indicators := ['-', '?', ':', ',', '[', ']', '{', '}', '#', '&', '*', '!', '|', '>', '\'', '"', '%', '@']
  !(isBlankOrEnd c || indicators.contains c || c.toNat = 96) ||
    (c = '-' && !isBlank (s.ahead 1)) ||
    (s.flowLevel = 0 && (c = '?' || c = ':') && !isBlankOrEnd (s.ahead 1))

def fetchContentToken : Scan Unit := do
  let s ← get
  let c := s.ahead 0
  if c = '[' then fetchFlowCollectionStart .flowSequenceStart
  else if c = '{' then fetchFlowCollectionStart .flowMappingStart
  else if c = ']' then fetchFlowCollectionEnd .flowSequenceEnd
  else if c = '}' then fetchFlowCollectionEnd .flowMappingEnd
  else if c = ',' then fetchFlowEntry
  else if c = '-' && isBlankOrEnd (s.ahead 1) then fetchBlockEntry
  else if c = '?' && (s.flowLevel > 0 || isBlankOrEnd (s.ahead 1)) then fetchKey
  else if c = ':' && (s.flowLevel > 0 || isBlankOrEnd (s.ahead 1)) then fetchValue
  else if c = '*' then fetchKeyCandidate (scanAnchor true)
  else if c = '&' then fetchKeyCandidate (scanAnchor false)
  else if c = '!' then fetchKeyCandidate scanTag
  else if c = '|' && s.flowLevel = 0 then fetchBlockScalar true
  else if c = '>' && s.flowLevel = 0 then fetchBlockScalar false
  else if c = '\'' then fetchKeyCandidate (scanFlowScalar true)
  else if c = '"' then fetchKeyCandidate (scanFlowScalar false)
  else if startsPlain s c then
    fetchKeyCandidate scanPlainScalar
  else scanFault s.mark "found character that cannot start any token"

def fetchNextToken : Scan Unit := do
  let s ← get
  if !s.started then fetchStreamStart else
  let scanMark := s.mark
  scanToNextToken (← fuel)
  unrollIndent (← get).mark.column scanMark
  let s ← get
  let c := s.ahead 0
  if isEnd c then fetchStreamEnd
  else if s.mark.column = 0 && c = '%' then fetchLineMarker scanDirective
  else if s.mark.column = 0 && s.atIndicator '-' then fetchLineMarker (documentMarker .documentStart)
  else if s.mark.column = 0 && s.atIndicator '.' then fetchLineMarker (documentMarker .documentEnd)
  else
    fetchContentToken
    let s ← get
    if (s.tokens.back?.map (·.kind)) != some .blockEntry then scanLineComment

def fetchMoreTokens : Nat → Scan Unit
  | 0 => modify fun s => { s with available := true }
  | n + 1 => do
    let s ← get
    let enough ← if s.tokens.size - s.parsed > 2 then
        match s.keysByToken.lookup s.parsed with
        | none => pure true
        | some i => do
          let still ← keyStillPossible i
          pure !still
      else pure false
    if enough then modify fun s => { s with available := true }
    else
      fetchNextToken
      fetchMoreTokens n

def allowedChar (c : Char) : Bool :=
  let v := c.toNat
  v = 0x09 || v = 0x0A || v = 0x0D || (0x20 ≤ v && v ≤ 0x7E) || v = 0x85 || (0xA0 ≤ v && v ≤ 0xD7FF) ||
    (0xE000 ≤ v && v ≤ 0xFFFD) || (0x10000 ≤ v && v ≤ 0x10FFFF)

def Scanner.ofText (text : String) : Except SyntaxError Scanner :=
  let cs := match text.toList with
    | c :: rest => if c.toNat = 0xFEFF then rest else c :: rest
    | [] => []
  if cs.all allowedChar then .ok { input := cs.toArray }
  else .error ⟨.reader, 0, 0, "control characters are not allowed"⟩

end Issuance.Yaml
