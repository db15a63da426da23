import Issuance.Text.Quoted
/-! # Bytes and their hex text

Byte strings are lists of bytes. Hex text is two lower-case digits per byte;
reading accepts either case and refuses an odd length or a character that is
no digit, naming the first such character. -/
namespace Issuance

abbrev Bytes := List UInt8

namespace Bytes

def ofString (s : String) : Bytes := s.toUTF8.toList

/-- The text of UTF-8 bytes; bytes that are not UTF-8 give the empty text. -/
def toText (b : Bytes) : String := (String.fromUTF8? (ByteArray.mk b.toArray)).getD ""

def toHex (b : Bytes) : String := String.join (b.map fun x => Text.hexDigits 2 x.toNat)

def toNat (b : Bytes) : Nat := b.foldl (fun acc x => acc * 256 + x.toNat) 0

def ofNatWidth (w n : Nat) : Bytes :=
  (List.range w).reverse.map fun i => (n / Nat.pow 256 i % 256).toUInt8

/-- The shortest big-endian form of `n`; zero has no bytes. -/
def ofNat (n : Nat) : Bytes :=
  if n = 0 then [] else ofNatWidth ((Nat.log2 n) / 8 + 1) n

/-- Lexicographic order on byte strings, a proper prefix first. -/
def lt : Bytes → Bytes → Bool
  | [], [] => false
  | [], _ :: _ => true
  | _ :: _, [] => false
  | a :: as, b :: bs => if a < b then true else if b < a then false else lt as bs

def startsWith (b p : Bytes) : Bool := p.isPrefixOf b

end Bytes

namespace Text

def hexValue (c : Char) : Option Nat :=
  if '0' ≤ c && c ≤ '9' then some (c.toNat - 48)
  else if 'a' ≤ c && c ≤ 'f' then some (c.toNat - 87)
  else if 'A' ≤ c && c ≤ 'F' then some (c.toNat - 55)
  else none

inductive HexError
  | badDigit (c : Char)
  | oddLength
  deriving DecidableEq, Repr

def leadByte (c : Char) : Nat :=
  let n := c.toNat
  if n < 0x80 then n else if n < 0x800 then 0xC0 + n / 64
  else if n < 0x10000 then 0xE0 + n / 4096 else 0xF0 + n / 262144

/-- A byte as named in a message: `U+` and four hex digits, then the byte as
a character between single quotes when it is printable. -/
def byteName (b : Nat) : String :=
  let c := Char.ofNat b
  "U+" ++ (hexDigits 4 b).toUpper ++ (if isPrintable c then " '" ++ c.toString ++ "'" else "")

def HexError.message : HexError → String
  | .badDigit c => "encoding/hex: invalid byte: " ++ byteName (leadByte c)
  | .oddLength => "encoding/hex: odd length hex string"

/-- Bytes of hex text, read two digits at a time. A bad digit in a complete
pair is reported before an odd length. -/
def ofHexChars : List Char → Except HexError Bytes
  | [] => .ok []
  | [c] => match hexValue c with
    | some _ => .error .oddLength
    | none => .error (.badDigit c)
  | a :: b :: rest => match hexValue a, hexValue b with
    | some x, some y => (ofHexChars rest).map fun r => (x * 16 + y).toUInt8 :: r
    | none, _ => .error (.badDigit a)
    | some _, none => .error (.badDigit b)

def ofHex (s : String) : Except HexError Bytes := ofHexChars s.toList

end Text

end Issuance
