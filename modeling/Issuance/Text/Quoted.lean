import Issuance.Text.Printable
/-! # Quoted text

Double quotes around the text, each character that is not printable
(`isPrintable`) escaped: short escapes, `\x`, `\u` or `\U`; the quote and
backslash escaped too. -/
namespace Issuance.Text

def hexChar (n : Nat) : Char :=
  if n < 10 then Char.ofNat (48 + n) else Char.ofNat (87 + n)

/-- The `w` lowest hex digits of `n`, most significant first. -/
def hexDigits (w n : Nat) : String :=
  String.ofList ((List.range w).reverse.map fun i => hexChar (n / Nat.pow 16 i % 16))

def quoteChar (q : Char) (c : Char) : String :=
  if c = q || c = '\\' then String.ofList ['\\', c]
  else if isPrintable c then c.toString
  else if c = '\x07' then "\\a"
  else if c = '\x08' then "\\b"
  else if c = '\x0c' then "\\f"
  else if c = '\n' then "\\n"
  else if c = '\r' then "\\r"
  else if c = '\t' then "\\t"
  else if c = '\x0b' then "\\v"
  else if c.toNat < 0x80 then "\\x" ++ hexDigits 2 c.toNat
  else if c.toNat < 0x10000 then "\\u" ++ hexDigits 4 c.toNat
  else "\\U" ++ hexDigits 8 c.toNat

def quoted (s : String) : String :=
  "\"" ++ String.join (s.toList.map (quoteChar '"')) ++ "\""

def quotedChar (c : Char) : String :=
  "'" ++ quoteChar '\'' c ++ "'"

end Issuance.Text
