import Issuance.Text.Hex
/-! # Bech32 text

A human-readable part, the separator `1`, and 5-bit groups ending in a
six-group BCH checksum. Reading takes one case and checks length,
characters, case, separator, alphabet, then checksum. -/
namespace Issuance.Text.Bech32

def charset : List Char := "qpzry9x8gf2tvdw0s3jn54khce6mua7l".toList

def generator : List Nat := [0x3b6a57b2, 0x26508e6d, 0x1ea119fa, 0x3d4233dd, 0x2a1462b3]

def polymod (values : List Nat) : Nat :=
  values.foldl (fun chk v =>
    let top := chk / Nat.pow 2 25
    let chk := (chk % Nat.pow 2 25) * 32 ^^^ v
    (List.range 5).foldl (fun c i => if top / Nat.pow 2 i % 2 = 1 then c ^^^ generator.getD i 0 else c) chk)
    1

/-- The human-readable part spread into 5-bit values: high bits, a zero, low bits. -/
def expand (hrp : Bytes) : List Nat :=
  hrp.map (fun b => b.toNat / 32) ++ [0] ++ hrp.map (fun b => b.toNat % 32)

def checksum (hrp : Bytes) (data : List Nat) : List Nat :=
  let m := polymod (expand hrp ++ data ++ [0, 0, 0, 0, 0, 0]) ^^^ 1
  (List.range 6).map fun i => m / Nat.pow 32 (5 - i) % 32

def verify (hrp : Bytes) (data : List Nat) : Bool := polymod (expand hrp ++ data) = 1

def toChars (data : List Nat) : String := String.ofList (data.map fun d => charset.getD d 'q')

def encode (hrp : String) (data : List Nat) : String :=
  hrp ++ "1" ++ toChars (data ++ checksum (Bytes.ofString hrp) data)

inductive DecodeError
  | badLength (n : Nat)
  | badCharacter (b : Nat)
  | mixedCase
  | badSeparator
  | notInCharset (b : Nat)
  | badChecksum (expected given : String)
  deriving DecidableEq, Repr

def DecodeError.message : DecodeError → String
  | .badLength n => "invalid bech32 string length " ++ toString n
  | .badCharacter b => "invalid character in string: '" ++ (Char.ofNat b).toString ++ "'"
  | .mixedCase => "string not all lowercase or all uppercase"
  | .badSeparator => "invalid index of 1"
  | .notInCharset b => "failed converting data to bytes: invalid character not part of charset: " ++
      toString b
  | .badChecksum e g => "checksum failed. Expected " ++ e ++ ", got " ++ g ++ "."

def lowerByte (b : UInt8) : UInt8 := if 65 ≤ b && b ≤ 90 then b + 32 else b

def upperByte (b : UInt8) : UInt8 := if 97 ≤ b && b ≤ 122 then b - 32 else b

def lastSeparator (b : Bytes) : Option Nat :=
  (b.zipIdx.filter (·.1 = 49)).getLast?.map (·.2)

def decode (s : String) : Except DecodeError (String × List Nat) := do
  let b := Bytes.ofString s
  if b.length < 8 || b.length > 90 then throw (.badLength b.length)
  match b.find? (fun x => x < 33 || x > 126) with
  | some x => throw (.badCharacter x.toNat)
  | none => pure ()
  let lower := b.map lowerByte
  if b != lower && b != b.map upperByte then throw .mixedCase
  let one ← match lastSeparator lower with
    | some i => if i < 1 || i + 7 > lower.length then throw .badSeparator else pure i
    | none => throw .badSeparator
  let hrp := lower.take one
  let rest := lower.drop (one + 1)
  let data ← rest.mapM fun x => match charset.idxOf? (Char.ofNat x.toNat) with
    | some v => pure v
    | none => throw (.notInCharset x.toNat)
  if verify hrp data then pure (Bytes.toText hrp, data.take (data.length - 6))
  else
    let body := data.take (data.length - 6)
    throw (.badChecksum (toChars (checksum hrp body)) (Bytes.toText (rest.drop (rest.length - 6))))

/-- Bits of `v`, `width` of them, most significant first. -/
def bits (width v : Nat) : List Bool := (List.range width).reverse.map fun i => v / Nat.pow 2 i % 2 = 1

/-- The number of a list of bits, most significant first. -/
def ofBits (bs : List Bool) : Nat := bs.foldl (fun acc b => acc * 2 + if b then 1 else 0) 0

/-- Groups of `n` bits; a shorter last group stays as it is. -/
def groups (n : Nat) (bs : List Bool) : List (List Bool) :=
  if bs.length ≤ n ∨ n = 0 then (if bs = [] then [] else [bs]) else bs.take n :: groups n (bs.drop n)
termination_by bs.length
decreasing_by
  simp only [List.length_drop]
  omega

/-- Bytes regrouped into 5-bit values, the last group padded with zero bits. -/
def toFive (b : Bytes) : List Nat :=
  (groups 5 (b.flatMap fun x => bits 8 x.toNat)).map fun g =>
    ofBits (g ++ List.replicate (5 - g.length) false)

/-- 5-bit values regrouped into bytes; a partial group of more than four bits,
or with a bit set, is refused. -/
def toEight (data : List Nat) : Option Bytes :=
  let all := data.flatMap (bits 5)
  let whole := all.length / 8 * 8
  let tail := all.drop whole
  if tail.length > 4 || tail.any id then none
  else some ((groups 8 (all.take whole)).map fun g => (ofBits g).toUInt8)

end Issuance.Text.Bech32
