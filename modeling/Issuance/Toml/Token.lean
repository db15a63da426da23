import Issuance.Toml.Scalar
import Issuance.Text.Letter
import Issuance.Text.Blank
/-! # TOML tokens

A machine moving from mode to mode a character at a time, with a stack of
modes. Each token keeps its text and line; the first fault ends the tokens
on the line the lexer reports. -/
namespace Issuance.Toml

inductive TokenKind
  | eof
  | text
  | string
  | escapedString
  | rawString
  | multilineString
  | rawMultilineString
  | bool
  | integer
  | float
  | datetime
  | arrayStart
  | arrayEnd
  | tableStart
  | tableEnd
  | arrayTableStart
  | arrayTableEnd
  | keyStart
  | keyEnd
  | commentStart
  | inlineTableStart
  | inlineTableEnd
  deriving DecidableEq, Repr, Inhabited

structure Token where
  kind : TokenKind
  text : String
  line : Nat
  deriving Repr, Inhabited

structure TokenFault where
  line : Nat
  message : String
  deriving Repr, Inhabited

inductive Mode
  | top
  | topEnd
  | tableStart
  | tableEnd
  | arrayTableEnd
  | tableNameStart
  | tableNameEnd
  | bareName
  | quotedName
  | keyStart
  | keyNameStart
  | keyEnd
  | value
  | arrayValue
  | arrayValueEnd
  | arrayEnd
  | inlineValue
  | inlineValueEnd
  | inlineEnd
  | basic
  | multiBasic
  | literal
  | multiLiteral
  | multiEscape
  | escape
  | shortCode
  | longCode
  | numberOrDateStart
  | numberOrDate
  | datetime
  | hexInteger
  | octalInteger
  | binaryInteger
  | decimal
  | signedStart
  | baseOrDate
  | float
  | word
  | commentStart
  | comment
  deriving DecidableEq, Repr, Inhabited

/-- The machine: text, token start, position, line, whether past the end,
whether the string has an escape, the mode stack, tokens made, first
fault. -/
structure Tokenizer where
  input : Array Char
  start : Nat := 0
  pos : Nat := 0
  line : Nat := 1
  atEnd : Bool := false
  escaped : Bool := false
  stack : List Mode := []
  tokens : Array Token := #[]
  fault : Option TokenFault := none

abbrev Lex := StateM Tokenizer

def endChar : Char := Char.ofNat 0

def isControlChar (c : Char) : Bool :=
  (c.toNat ≤ 0x1f && c ≠ '\t' && c ≠ '\r' && c ≠ '\n') || c.toNat = 0x7f

def isBreak (c : Char) : Bool := c = '\n' || c = '\r'

def shown (c : Char) : String := Text.quotedChar c

def runeOrEnd (c : Char) : String :=
  if c = endChar then "end of file" else "'" ++ c.toString ++ "'"

def faultAt (line : Nat) (message : String) : Lex (Option Mode) := do
  modify fun t => { t with fault := t.fault <|> some ⟨line, message⟩ }
  pure none

def faultHere (message : String) : Lex (Option Mode) := do
  let t ← get
  let line :=
    if t.atEnd && t.pos ≥ 1 && t.input[t.pos - 1]? == some '\n' then t.line - 1 else t.line
  faultAt line message

def faultBefore (message : String) : Lex (Option Mode) := do faultAt ((← get).line - 1) message

def faultEscape (message : String) : Lex (Option Mode) := do
  if (← get).atEnd then faultBefore message else faultAt (← get).line message

def next : Lex Char := do
  let t ← get
  match t.input[t.pos]? with
  | none =>
    set { t with atEnd := true }
    pure endChar
  | some c =>
    let line := if c = '\n' then t.line + 1 else t.line
    if isControlChar c || (c = '\r' && t.input[t.pos + 1]? != some '\n') then
      let fault : TokenFault :=
        ⟨line, "TOML files cannot contain control characters: '0x" ++ Text.hexDigits 2 c.toNat ++ "'"⟩
      set { t with line, fault := t.fault <|> some fault }
      pure (Char.ofNat 0xFFFD)
    else
      set { t with line, pos := t.pos + 1 }
      pure c

def backup : Lex Unit := modify fun t =>
  if t.atEnd then { t with atEnd := false }
  else
    let pos := t.pos - 1
    { t with pos, line := if t.input[pos]? == some '\n' then t.line - 1 else t.line }

def peek : Lex Char := do
  let c ← next
  backup
  pure c

def accept (c : Char) : Lex Bool := do
  if (← next) = c then pure true
  else
    backup
    pure false

def ignore : Lex Unit := modify fun t => { t with start := t.pos }

def current : Lex String := do
  let t ← get
  pure (String.ofList ((t.input.extract t.start t.pos).toList))

def emitWith (kind : TokenKind) (f : String → String) : Lex Unit := do
  let text ← current
  modify fun t =>
    if t.fault.isSome then t
    else { t with tokens := t.tokens.push ⟨kind, f text, t.line⟩, start := t.pos }

def emit (kind : TokenKind) : Lex Unit := emitWith kind id

def push (m : Mode) : Lex Unit := modify fun t => { t with stack := m :: t.stack }

def pop : Lex (Option Mode) := do
  match (← get).stack with
  | m :: rest =>
    modify fun t => { t with stack := rest }
    pure (some m)
  | [] => faultHere "BUG in lexer: no states to pop"

def skipWhile (p : Char → Bool) : Nat → Lex Unit
  | 0 => ignore
  | n + 1 => do
    if p (← next) then skipWhile p n
    else
      backup
      ignore

def skipBlanks : Lex Unit := do skipWhile isLineBlank ((← get).input.size + 1)

def letters : Nat → Lex (List Char)
  | 0 => pure []
  | n + 1 => do
    let c ← next
    if Text.isLetter c then pure (c :: (← letters n))
    else
      backup
      pure []

def isBinaryDigit (c : Char) : Bool := c = '0' || c = '1'

def isOctalDigit (c : Char) : Bool := '0' ≤ c && c ≤ '7'

def infOrNan : Lex Bool := do
  let first ← if ← accept 'n' then accept 'f' else pure false
  if first then pure true
  else if ← accept 'a' then accept 'n'
  else pure false

def codeDigits (count : String) (letter : Char) : Nat → Lex (Option Mode)
  | 0 => pop
  | n + 1 => do
    if isHexDigit (← next) then codeDigits count letter n
    else
      faultHere ("expected " ++ count ++ " hexadecimal digits after '\\" ++ letter.toString ++
        "', but got " ++ Text.quoted (← current) ++ " instead")

def multiClose (q : Char) (again : Mode) (kind : TokenKind) (tooMany : String) (six : String → Bool) :
    Lex (Option Mode) := do
  if ← accept q then
    if ← accept q then
      if (← peek) = q then
        if six (← current) then faultHere tooMany
        else
          backup
          backup
          pure (some again)
      else
        backup
        backup
        backup
        modify fun t => { t with escaped := false }
        emit kind
        let _ ← next
        let _ ← next
        let _ ← next
        ignore
        pop
    else
      backup
      pure (some again)
  else pure (some again)

def basePrefix (name : String) (ok : Char → Bool) (digits : Mode) : Lex (Option Mode) := do
  let p ← peek
  if !ok p then
    let _ ← faultHere ("not " ++ name ++ " number: '" ++ (← current) ++ p.toString ++ "'")
  pure (some digits)

def baseDigits (ok : Char → Bool) (again : Mode) : Lex (Option Mode) := do
  let r ← next
  if ok r || r = '_' then pure (some again)
  else
    backup
    emit .integer
    pop

def step : Mode → Lex (Option Mode)
  | .top => do
    let r ← next
    if isLineBlank r || isBreak r then
      ignore
      pure (some .top)
    else if r = '#' then
      push .top
      pure (some .commentStart)
    else if r = '[' then pure (some .tableStart)
    else if r = endChar then
      let t ← get
      if t.pos > t.start then faultHere "unexpected EOF"
      else
        emit .eof
        pure none
    else
      backup
      push .topEnd
      pure (some .keyStart)
  | .topEnd => do
    let r ← next
    if r = '#' then
      push .top
      pure (some .commentStart)
    else if isLineBlank r then pure (some .topEnd)
    else if isBreak r then
      ignore
      pure (some .top)
    else if r = endChar then
      emit .eof
      pure none
    else
      faultHere ("expected a top-level item to end with a newline, comment, or EOF, but got " ++
        shown r ++ " instead")
  | .tableStart => do
    if (← peek) = '[' then
      let _ ← next
      emit .arrayTableStart
      push .arrayTableEnd
    else
      emit .tableStart
      push .tableEnd
    pure (some .tableNameStart)
  | .tableEnd => do
    emit .tableEnd
    pure (some .topEnd)
  | .arrayTableEnd => do
    let r ← next
    if r ≠ ']' then
      faultHere ("expected end of table array name delimiter ']', but got " ++ shown r ++ " instead")
    else
      emit .arrayTableEnd
      pure (some .topEnd)
  | .tableNameStart => do
    skipBlanks
    let r ← peek
    if r = ']' || r = endChar then faultHere "unexpected end of table name (table names cannot be empty)"
    else if r = '.' then faultHere "unexpected table separator (table names cannot be empty)"
    else if r = '"' || r = '\'' then
      ignore
      push .tableNameEnd
      pure (some .quotedName)
    else
      push .tableNameEnd
      pure (some .bareName)
  | .tableNameEnd => do
    skipBlanks
    let r ← next
    if isLineBlank r then pure (some .tableNameEnd)
    else if r = '.' then
      ignore
      pure (some .tableNameStart)
    else if r = ']' then pop
    else faultHere ("expected '.' or ']' to end table name, but got " ++ shown r ++ " instead")
  | .bareName => do
    if isBareKeyChar (← next) then pure (some .bareName)
    else
      backup
      emit .text
      pop
  | .quotedName => do
    let r ← next
    if r = '"' then
      ignore
      pure (some .basic)
    else if r = '\'' then
      ignore
      pure (some .literal)
    else if isLineBlank r then
      ignore
      pure (some .value)
    else if r = endChar then faultHere "unexpected EOF; expected value"
    else faultHere ("expected value but found " ++ shown r ++ " instead")
  | .keyStart => do
    skipBlanks
    let r ← peek
    if r = '=' || r = endChar then faultHere "unexpected '=': key name appears blank"
    else if r = '.' then faultHere "unexpected '.': keys cannot start with a '.'"
    else
      if r = '"' || r = '\'' then ignore
      emit .keyStart
      pure (some .keyNameStart)
  | .keyNameStart => do
    skipBlanks
    let r ← peek
    if r = '=' || r = endChar then faultHere "unexpected '='"
    else if r = '.' then faultHere "unexpected '.'"
    else if r = '"' || r = '\'' then
      ignore
      push .keyEnd
      pure (some .quotedName)
    else
      push .keyEnd
      pure (some .bareName)
  | .keyEnd => do
    skipBlanks
    let r ← next
    if isLineBlank r then
      ignore
      pure (some .keyEnd)
    else if r = endChar then faultHere "unexpected EOF; expected key separator '='"
    else if r = '.' then
      ignore
      pure (some .keyNameStart)
    else if r = '=' then
      emit .keyEnd
      ignore
      pure (some .value)
    else if r = '\n' then faultBefore "expected '.' or '=', but got '\\n' instead"
    else faultHere ("expected '.' or '=', but got " ++ shown r ++ " instead")
  | .value => do
    let r ← next
    if isLineBlank r then
      ignore
      pure (some .value)
    else if r.isDigit then
      backup
      pure (some .numberOrDateStart)
    else if r = '[' then
      ignore
      emit .arrayStart
      pure (some .arrayValue)
    else if r = '{' then
      ignore
      emit .inlineTableStart
      pure (some .inlineValue)
    else if r = '"' || r = '\'' then
      let (one, many) := if r = '"' then (Mode.basic, Mode.multiBasic) else (Mode.literal, Mode.multiLiteral)
      if ← accept r then
        if ← accept r then
          ignore
          return some many
        backup
      ignore
      pure (some one)
    else if r = '.' then faultHere "floats must start with a digit, not '.'"
    else if r = 'i' || r = 'n' then
      if ← infOrNan then
        emit .float
        pop
      else
        backup
        pure (some .word)
    else if r = '-' || r = '+' then pure (some .signedStart)
    else if Text.isLetter r then
      backup
      pure (some .word)
    else if r = endChar then faultHere "unexpected EOF; expected value"
    else if r = '\n' then faultBefore "expected value but found '\\n' instead"
    else faultHere ("expected value but found " ++ shown r ++ " instead")
  | .arrayValue => do
    let r ← next
    if isLineBlank r || isBreak r then
      ignore
      pure (some .arrayValue)
    else if r = '#' then
      push .arrayValue
      pure (some .commentStart)
    else if r = ',' then faultHere "unexpected comma"
    else if r = ']' then pure (some .arrayEnd)
    else
      backup
      push .arrayValueEnd
      pure (some .value)
  | .arrayValueEnd => do
    let r ← next
    if isLineBlank r || isBreak r then
      ignore
      pure (some .arrayValueEnd)
    else if r = '#' then
      push .arrayValueEnd
      pure (some .commentStart)
    else if r = ',' then
      ignore
      pure (some .arrayValue)
    else if r = ']' then pure (some .arrayEnd)
    else faultHere ("expected a comma (',') or array terminator (']'), but got " ++ runeOrEnd r)
  | .arrayEnd => do
    ignore
    emit .arrayEnd
    pop
  | .inlineValue => do
    let r ← next
    if isLineBlank r then
      ignore
      pure (some .inlineValue)
    else if isBreak r then faultBefore "newlines not allowed within inline tables"
    else if r = '#' then
      push .inlineValue
      pure (some .commentStart)
    else if r = ',' then faultHere "unexpected comma"
    else if r = '\x7d' then pure (some .inlineEnd)
    else
      backup
      push .inlineValueEnd
      pure (some .keyStart)
  | .inlineValueEnd => do
    let r ← next
    if isLineBlank r then
      ignore
      pure (some .inlineValueEnd)
    else if isBreak r then faultBefore "newlines not allowed within inline tables"
    else if r = '#' then
      push .inlineValueEnd
      pure (some .commentStart)
    else if r = ',' then
      ignore
      skipBlanks
      if (← peek) = '\x7d' then faultHere "trailing comma not allowed in inline tables"
      else pure (some .inlineValue)
    else if r = '\x7d' then pure (some .inlineEnd)
    else
      faultHere ("expected a comma or an inline table terminator '\x7d', but got " ++ runeOrEnd r ++
        " instead")
  | .inlineEnd => do
    ignore
    emit .inlineTableEnd
    pop
  | .basic => do
    let r ← next
    if r = endChar then faultHere "unexpected EOF; expected '\"'"
    else if isBreak r then faultBefore "strings cannot contain newlines"
    else if r = '\\' then
      push .basic
      pure (some .escape)
    else if r = '"' then
      backup
      if (← get).escaped then
        modify fun t => { t with escaped := false }
        emit .escapedString
      else emit .string
      let _ ← next
      ignore
      pop
    else pure (some .basic)
  | .multiBasic => do
    let r ← next
    if r = endChar then faultHere "unexpected EOF; expected '\"\"\"'"
    else if r = '\\' then pure (some .multiEscape)
    else if r = '"' then
      multiClose '"' .multiBasic .multilineString "unexpected '\"\"\"\"\"\"'"
        fun s => s.endsWith "\"\"\"\"\"" && !s.endsWith "\\\"\"\"\"\""
    else pure (some .multiBasic)
  | .literal => do
    let r ← next
    if r = endChar then faultHere "unexpected EOF; expected \"'\""
    else if isBreak r then faultBefore "strings cannot contain newlines"
    else if r = '\'' then
      backup
      emit .rawString
      let _ ← next
      ignore
      pop
    else pure (some .literal)
  | .multiLiteral => do
    let r ← next
    if r = endChar then faultHere "unexpected EOF; expected \"'''\""
    else if r = '\'' then
      multiClose '\'' .multiLiteral .rawMultilineString "unexpected \"''''''\""
        fun s => s.endsWith "'''''"
    else pure (some .multiLiteral)
  | .multiEscape => do
    if isBreak (← next) then pure (some .multiBasic)
    else
      backup
      push .multiBasic
      pure (some .escape)
  | .escape => do
    modify fun t => { t with escaped := true }
    let r ← next
    if ['b', 't', 'n', 'f', 'r', '"', ' ', '\t', '\\'].contains r then pop
    else if r = 'u' then pure (some .shortCode)
    else if r = 'U' then pure (some .longCode)
    else faultEscape ("invalid escape in string '\\" ++ r.toString ++ "'")
  | .shortCode => codeDigits "four" 'u' 4
  | .longCode => codeDigits "eight" 'U' 8
  | .numberOrDateStart => do
    let r ← next
    if r = '0' then pure (some .baseOrDate)
    else if !r.isDigit then faultHere ("expected a digit but got " ++ shown r)
    else pure (some .numberOrDate)
  | .numberOrDate => do
    let r ← next
    if r.isDigit then pure (some .numberOrDate)
    else if r = '-' || r = ':' then pure (some .datetime)
    else if r = '_' then pure (some .decimal)
    else if r = '.' || r = 'e' || r = 'E' then pure (some .float)
    else
      backup
      emit .integer
      pop
  | .datetime => do
    let r ← next
    if r.isDigit || "-:Tt .Zz+".toList.contains r then pure (some .datetime)
    else
      backup
      emitWith .datetime Text.trim
      pop
  | .hexInteger => baseDigits isHexDigit .hexInteger
  | .octalInteger => baseDigits isOctalDigit .octalInteger
  | .binaryInteger => baseDigits isBinaryDigit .binaryInteger
  | .decimal => do
    let r ← next
    if r.isDigit || r = '_' then pure (some .decimal)
    else if r = '.' || r = 'e' || r = 'E' then pure (some .float)
    else
      backup
      emit .integer
      pop
  | .signedStart => do
    let r ← next
    if r = 'i' || r = 'n' then
      let (a, b) := if r = 'i' then ('n', 'f') else ('a', 'n')
      let ok ← if ← accept a then accept b else pure false
      if !ok then faultHere ("invalid float: '" ++ (← current) ++ "'")
      else
        emit .float
        pop
    else if r = '0' then
      let p ← peek
      if p = 'b' || p = 'o' || p = 'x' then
        faultHere ("cannot use sign with non-decimal numbers: '" ++ (← current) ++ p.toString ++ "'")
      else pure (some .decimal)
    else if r = '.' then faultHere "floats must start with a digit, not '.'"
    else if r.isDigit then pure (some .decimal)
    else faultHere ("expected a digit but got " ++ shown r)
  | .baseOrDate => do
    let r ← next
    if r.isDigit then pure (some .numberOrDate)
    else if r = '_' then pure (some .decimal)
    else if r = '.' || r = 'e' || r = 'E' then pure (some .float)
    else if r = 'b' then basePrefix "a binary" isBinaryDigit .binaryInteger
    else if r = 'o' then basePrefix "an octal" isOctalDigit .octalInteger
    else if r = 'x' then basePrefix "a hexadecimal" isHexDigit .hexInteger
    else
      backup
      emit .integer
      pop
  | .float => do
    let r ← next
    if r.isDigit || "_.-+eE".toList.contains r then pure (some .float)
    else
      backup
      emit .float
      pop
  | .word => do
    let s := String.ofList (← letters ((← get).input.size + 1))
    if s = "true" || s = "false" then
      emit .bool
      pop
    else faultHere ("expected value but found " ++ Text.quoted s ++ " instead")
  | .commentStart => do
    ignore
    emit .commentStart
    pure (some .comment)
  | .comment => do
    let r ← next
    if isBreak r || r = endChar then
      backup
      emit .text
      pop
    else pure (some .comment)

def run : Nat → Mode → Lex Unit
  | 0, _ => do let _ ← faultHere "document nests too deeply"
  | fuel + 1, m => do
    let r ← step m
    if (← get).fault.isNone then
      match r with
      | some m' => run fuel m'
      | none => pure ()

def tokenize (text : String) : Array Token × Option TokenFault :=
  let input := text.toList.toArray
  let t := (run (16 * input.size + 64) .top).run { input } |>.2
  (t.tokens, t.fault)

end Issuance.Toml
