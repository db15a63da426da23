import Issuance.Text.Utf8
/-! # UUID text

Sixteen bytes as 32 hex digits in groups of 8-4-4-4-12; the reader also
takes a `urn:uuid:` prefix, one character each side, or the digits alone. -/
namespace Issuance.Text.Uuid

def pairValue (a b : UInt8) : Option UInt8 :=
  match hexValue (Char.ofNat a.toNat), hexValue (Char.ofNat b.toNat) with
  | some x, some y => some (x * 16 + y).toUInt8
  | _, _ => none

def pairStarts : List Nat := [0, 2, 4, 6, 9, 11, 14, 16, 19, 21, 24, 26, 28, 30, 32, 34]

def badFormat : String := "invalid UUID format"

def pairsAt (b : Bytes) (starts : List Nat) : Except String Bytes :=
  starts.mapM fun i => match pairValue (b.getD i 0) (b.getD (i + 1) 0) with
    | some v => .ok v
    | none => .error badFormat

def hyphenated (b : Bytes) : Except String Bytes :=
  if [8, 13, 18, 23].all (fun i => b.getD i 0 = 45) then pairsAt b pairStarts
  else .error badFormat

def sameFolded (b : Bytes) (s : String) : Bool :=
  let lower (x : UInt8) : UInt8 := if 65 ≤ x && x ≤ 90 then x + 32 else x
  b.map lower = s.toUTF8.toList.map lower

def parseBytes (b : Bytes) : Except String Bytes :=
  match b.length with
  | 36 => hyphenated b
  | 45 =>
    if sameFolded (b.take 9) "urn:uuid:" then hyphenated (b.drop 9)
    else .error ("invalid urn prefix: " ++ Bytes.quoted (b.take 9))
  | 38 => hyphenated (b.drop 1)
  | 32 => pairsAt b ((List.range 16).map (2 * ·))
  | n => .error ("invalid UUID length: " ++ toString n)

def parse (s : String) : Except String Bytes := parseBytes s.toUTF8.toList

def text (b : Bytes) : String :=
  let h := Bytes.toHex b
  let part (i n : Nat) : String := String.ofList ((h.toList.drop i).take n)
  "-".intercalate [part 0 8, part 8 4, part 12 4, part 16 4, part 20 12]

theorem parse_length (s : String) (h : s.toUTF8.toList.length = 20) :
    parse s = .error "invalid UUID length: 20" := by
  simp only [parse, parseBytes, h]
  rfl

end Issuance.Text.Uuid
