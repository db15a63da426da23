import Issuance.Text.Hex
/-! # Characters of text held as bytes

A character is a byte and, from `0xC0` up, its continuation bytes; overlong
forms, surrogates and `0xFFFE`/`0xFFFF` read as U+FFFD. Many functions stop
at the first zero byte; case changes ASCII only. -/
namespace Issuance.Sql

def isContinuation (b : UInt8) : Bool := b / 64 == 2

def untilNul (b : Bytes) : Bytes := b.takeWhile (· ≠ 0)

def splitChar : Bytes → Bytes × Bytes
  | [] => ([], [])
  | x :: rest =>
    if x < 0xC0 then ([x], rest)
    else
      let tail := rest.takeWhile isContinuation
      (x :: tail, rest.drop tail.length)

theorem splitChar_length (x : UInt8) (rest : Bytes) :
    (splitChar (x :: rest)).2.length < (x :: rest).length := by
  simp only [splitChar]
  split
  · simp
  · simp only [List.length_drop, List.length_cons]
    omega

def charPieces (b : Bytes) : List Bytes :=
  match _h : b with
  | [] => []
  | x :: rest =>
    have : (splitChar (x :: rest)).2.length < (x :: rest).length := splitChar_length x rest
    (splitChar (x :: rest)).1 :: charPieces (splitChar (x :: rest)).2
termination_by b.length
decreasing_by subst _h; exact this

def leadBits (b : Nat) : Nat :=
  if b < 0xE0 then b - 0xC0
  else if b < 0xF0 then b - 0xE0
  else if b < 0xF8 then b - 0xF0
  else if b < 0xFC then b - 0xF8
  else if b < 0xFE then b - 0xFC
  else 0

def codePoint (piece : Bytes) : Nat :=
  match piece with
  | [] => 0
  | x :: tail =>
    if x < 0xC0 then x.toNat else
    let v := tail.foldl (fun acc t => (acc * 64 + t.toNat % 64) % Nat.pow 2 32) (leadBits x.toNat)
    if v < 0x80 || v / 2048 = 0xD800 / 2048 || v / 2 = 0xFFFE / 2 then 0xFFFD else v

def readChar (b : Bytes) : Nat × Bytes :=
  let (piece, rest) := splitChar b
  (codePoint piece, rest)

def charCount (b : Bytes) : Nat := (charPieces (untilNul b)).length

def encodeChar (c : Nat) : Bytes :=
  let t := fun (k : Nat) => (0x80 + (c / Nat.pow 2 k) % 64).toUInt8
  if c < 0x80 then [c.toUInt8]
  else if c < 0x800 then [(0xC0 + (c / 64) % 32).toUInt8, t 0]
  else if c < 0x10000 then [(0xE0 + (c / 4096) % 16).toUInt8, t 6, t 0]
  else [(0xF0 + (c / 262144) % 8).toUInt8, t 12, t 6, t 0]

def upperByte (b : UInt8) : UInt8 := if 97 ≤ b && b ≤ 122 then b - 32 else b

def lowerByte (b : UInt8) : UInt8 := if 65 ≤ b && b ≤ 90 then b + 32 else b

def isHexByte (b : UInt8) : Bool :=
  (48 ≤ b && b ≤ 57) || (65 ≤ b && b ≤ 70) || (97 ≤ b && b ≤ 102)

def hexByteValue (b : UInt8) : Nat :=
  if b ≤ 57 then b.toNat - 48 else if b ≤ 70 then b.toNat - 55 else b.toNat - 87

theorem encodeChar_ascii (c : Nat) (h : c < 0x80) : encodeChar c = [c.toUInt8] := by
  simp [encodeChar, h]

end Issuance.Sql
