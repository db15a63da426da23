import Issuance.Json
import Issuance.Text.Blank
import Issuance.Text.Utf8
/-! # Reading JSON text

Reports the first offence: the character and what was expected, a bad
escape, or the end of input. Numbers keep their text. -/
namespace Issuance.Json

/-- Why JSON text cannot be read: a misplaced character (with how many
follow), a non-UTF-8 byte, or a bad or cut-short escape. -/
inductive SyntaxError
  | truncated
  | unexpected (c : Char) (context : String) (after : Nat)
  | unexpectedByte (b : Nat) (context : String)
  | escape (shown : List Char) (cut : List Nat)
  deriving DecidableEq, Repr

/-- An escape sequence as a message shows it: between backquotes when
every character prints plainly, else quoted with bytes cut short as `\x`
escapes. -/
def escapeShown (cs : List Char) (cut : List Nat) : String :=
  let plain := cut.isEmpty && cs.all fun c =>
    c.toNat ≠ 96 && c.toNat ≠ 0xFFFD && !Text.isBlank c && Text.isPrintable c
  if plain then "`" ++ String.ofList cs ++ "`"
  else "\"" ++ String.join (cs.map (Text.quoteChar '"')) ++
    String.join (cut.map fun b => "\\x" ++ Text.hexDigits 2 b) ++ "\""

def SyntaxError.message : SyntaxError → String
  | .truncated => "unexpected end of JSON input"
  | .unexpected c ctx _ => "invalid character " ++ Text.quotedChar c ++ " " ++ ctx
  | .unexpectedByte b ctx => "invalid character '\\x" ++ Text.hexDigits 2 b ++ "' " ++ ctx
  | .escape cs cut => "invalid escape sequence " ++ escapeShown cs cut ++ " in string"

/-- The first `n` bytes of some characters: the characters that fit whole,
and the bytes of the one cut short. -/
def takeBytes : Nat → List Char → List Char × List Nat
  | _, [] => ([], [])
  | n, c :: cs =>
    if c.utf8Size ≤ n then
      let (whole, cut) := takeBytes (n - c.utf8Size) cs
      (c :: whole, cut)
    else ([], ((String.utf8EncodeChar c).take n).map UInt8.toNat)

/-- The escape made of the first `n` bytes from a backslash on. -/
def escapeOf (n : Nat) (cs : List Char) : SyntaxError :=
  let (whole, cut) := takeBytes n ('\\' :: cs)
  .escape whole cut

def isSpace (c : Char) : Bool := c = ' ' || c = '\t' || c = '\n' || c = '\r'

abbrev Step (α : Type) := Except SyntaxError (α × List Char)

def hex4? : List Char → Option (Nat × List Char)
  | a :: b :: c :: d :: rest =>
    match Text.hexValue a, Text.hexValue b, Text.hexValue c, Text.hexValue d with
    | some w, some x, some y, some z => some (((w * 16 + x) * 16 + y) * 16 + z, rest)
    | _, _, _, _ => none
  | _ => none

/-- Whether the input is cut short inside four hex digits: fewer than four
remain, and all of them are hex digits. -/
def hexCut (cs : List Char) : Bool := cs.length < 4 && cs.all fun c => (Text.hexValue c).isSome

def escapedCode (cs : List Char) : Step Nat :=
  match hex4? cs with
  | some r => .ok r
  | none => if hexCut cs then .error .truncated else .error (escapeOf 6 ('u' :: cs))

/-- Whether the input is cut short inside a `\u` escape of a low
surrogate. -/
def lowSurrogateCut : List Char → Bool
  | [] | ['\\'] | ['\\', 'u'] => true
  | '\\' :: 'u' :: d :: rest =>
    (d = 'd' || d = 'D') && match rest with
      | [] => true
      | e :: more => "cdefCDEF".toList.contains e && more.length < 2 && hexCut more
  | _ => false

/-- A string literal after its quote. A surrogate escape pairs with the
next one when it can, else stands for U+FFFD. -/
def stringBody : Nat → List Char → List Char → Step String
  | 0, _, _ => .error .truncated
  | _ + 1, _, [] => .error .truncated
  | n + 1, acc, c :: rest =>
    if c = '"' then .ok (String.ofList acc.reverse, rest)
    else if c = '\\' then
      match rest with
      | [] => .error .truncated
      | e :: rest' =>
        if e = 'u' then
          match escapedCode rest' with
          | .error err => .error err
          | .ok (hi, rest'') =>
            if 0xD800 ≤ hi && hi < 0xE000 then
              match rest'' with
              | '\\' :: 'u' :: more =>
                match hex4? more with
                | some (lo, more') =>
                  if hi < 0xDC00 && 0xDC00 ≤ lo && lo < 0xE000 then
                    stringBody n (Char.ofNat (0x10000 + (hi - 0xD800) * 1024 + (lo - 0xDC00)) :: acc) more'
                  else stringBody n (Char.ofNat 0xFFFD :: acc) rest''
                | none =>
                  if rest''.length < 6 && lowSurrogateCut rest'' then .error .truncated
                  else stringBody n (Char.ofNat 0xFFFD :: acc) rest''
              | _ =>
                if rest''.length < 6 && lowSurrogateCut rest'' then .error .truncated
                else stringBody n (Char.ofNat 0xFFFD :: acc) rest''
            else stringBody n (Char.ofNat hi :: acc) rest''
        else match e with
          | '"' => stringBody n ('"' :: acc) rest'
          | '\\' => stringBody n ('\\' :: acc) rest'
          | '/' => stringBody n ('/' :: acc) rest'
          | 'b' => stringBody n ('\x08' :: acc) rest'
          | 'f' => stringBody n ('\x0c' :: acc) rest'
          | 'n' => stringBody n ('\n' :: acc) rest'
          | 'r' => stringBody n ('\r' :: acc) rest'
          | 't' => stringBody n ('\t' :: acc) rest'
          | _ => .error (escapeOf 2 rest)
    else if c.toNat < 32 then .error (.unexpected c "in string" rest.length)
    else stringBody n (c :: acc) rest

def digitRun (cs : List Char) : List Char × List Char := (cs.takeWhile Char.isDigit, cs.dropWhile Char.isDigit)

def numberText (cs : List Char) : Step String :=
  let (sign, cs) := match cs with
    | '-' :: r => (['-'], r)
    | r => ([], r)
  let intPart : Except SyntaxError (List Char × List Char) := match cs with
    | '0' :: r => .ok (['0'], r)
    | c :: after =>
      if c.isDigit then .ok (digitRun cs) else .error (.unexpected c "in numeric literal" after.length)
    | [] => .error .truncated
  match intPart with
  | .error e => .error e
  | .ok (ip, cs) =>
    let frac : Except SyntaxError (List Char × List Char) := match cs with
      | '.' :: r =>
        match r with
        | c :: after =>
          if c.isDigit then let (d, r') := digitRun r; .ok ('.' :: d, r')
          else .error (.unexpected c "in numeric literal" after.length)
        | [] => .error .truncated
      | r => .ok ([], r)
    match frac with
    | .error e => .error e
    | .ok (fp, cs) =>
      let expo : Except SyntaxError (List Char × List Char) := match cs with
        | e :: r =>
          if e = 'e' || e = 'E' then
            let (sg, r) := match r with
              | '+' :: r' => (['+'], r')
              | '-' :: r' => (['-'], r')
              | r' => ([], r')
            match r with
            | c :: after =>
              if c.isDigit then let (d, r') := digitRun r; .ok (e :: sg ++ d, r')
              else .error (.unexpected c "in numeric literal" after.length)
            | [] => .error .truncated
          else .ok ([], cs)
        | [] => .ok ([], [])
      match expo with
      | .error e => .error e
      | .ok (ep, cs) => .ok (String.ofList (sign ++ ip ++ fp ++ ep), cs)

def literal (word : String) (expect : List Char) (value : Json) : List Char → Step Json
  | cs =>
    let rec go : List Char → List Char → Step Json
      | [], rest => .ok (value, rest)
      | e :: es, c :: rest =>
        if c = e then go es rest
        else .error (.unexpected c ("in literal " ++ word ++ " (expecting " ++ Text.quotedChar e ++ ")") rest.length)
      | _ :: _, [] => .error .truncated
    go expect cs

mutual
def value : Nat → List Char → Step Json
  | 0, _ => .error .truncated
  | n + 1, cs =>
    match cs.dropWhile isSpace with
    | [] => .error .truncated
    | c :: rest =>
      if c = '{' then members n [] true rest
      else if c = '[' then items n [] true rest
      else if c = '"' then (stringBody (2 * rest.length + 2) [] rest).map fun (s, r) => (.str s, r)
      else if c = 't' then literal "true" ['r', 'u', 'e'] (.bool true) rest
      else if c = 'f' then literal "false" ['a', 'l', 's', 'e'] (.bool false) rest
      else if c = 'n' then literal "null" ['u', 'l', 'l'] .null rest
      else if c = '-' || c.isDigit then (numberText (c :: rest)).map fun (t, r) => (.number t, r)
      else .error (.unexpected c "looking for beginning of value" rest.length)

def items : Nat → List Json → Bool → List Char → Step Json
  | 0, _, _, _ => .error .truncated
  | n + 1, acc, first, cs =>
    match cs.dropWhile isSpace with
    | ']' :: rest => if first then .ok (.arr [], rest)
      else .error (.unexpected ']' "looking for beginning of value" rest.length)
    | cs' =>
      match value n cs' with
      | .error e => .error e
      | .ok (v, rest) =>
        match rest.dropWhile isSpace with
        | ',' :: rest' => items n (v :: acc) false rest'
        | ']' :: rest' => .ok (.arr (v :: acc).reverse, rest')
        | c :: after => .error (.unexpected c "after array element" after.length)
        | [] => .error .truncated

def members : Nat → List (String × Json) → Bool → List Char → Step Json
  | 0, _, _, _ => .error .truncated
  | n + 1, acc, first, cs =>
    match cs.dropWhile isSpace with
    | '}' :: rest => if first then .ok (.obj [], rest)
      else .error (.unexpected '}' "looking for beginning of object key string" rest.length)
    | '"' :: rest =>
      match stringBody (2 * rest.length + 2) [] rest with
      | .error e => .error e
      | .ok (k, rest) =>
        match rest.dropWhile isSpace with
        | ':' :: rest' =>
          match value n rest' with
          | .error e => .error e
          | .ok (v, rest'') =>
            match rest''.dropWhile isSpace with
            | ',' :: more => members n ((k, v) :: acc) false more
            | '}' :: more => .ok (.obj ((k, v) :: acc).reverse, more)
            | c :: after => .error (.unexpected c "after object key:value pair" after.length)
            | [] => .error .truncated
        | c :: after => .error (.unexpected c "after object key" after.length)
        | [] => .error .truncated
    | c :: after => .error (.unexpected c "looking for beginning of object key string" after.length)
    | [] => .error .truncated
end

def parsePrefix (cs : List Char) : Step Json := value (2 * cs.length + 2) cs

/-- The one value of a JSON text; only blanks may follow it. -/
def parse (s : String) : Except SyntaxError Json :=
  match parsePrefix s.toList with
  | .error e => .error e
  | .ok (v, rest) =>
    match rest.dropWhile isSpace with
    | [] => .ok v
    | c :: after => .error (.unexpected c "after top-level value" after.length)

/-- The one JSON value of some bytes; non-UTF-8 bytes read as U+FFFD, and
a misplaced one is shown as that byte. -/
def parseBytes (b : Bytes) : Except SyntaxError Json :=
  let marked := Bytes.charsMarked b
  match parse (String.ofList (marked.map Prod.fst)) with
  | .error (.unexpected c ctx after) =>
    match marked[marked.length - 1 - after]? with
    | some (_, some x) => .error (.unexpectedByte x.toNat ctx)
    | _ => .error (.unexpected c ctx after)
  | r => r

end Issuance.Json
