import Issuance.Text.Hex
/-! # UTF-8 text of arbitrary bytes

Bytes are read as UTF-8 where they form a well-formed sequence; every byte
that does not is read as the replacement character U+FFFD, one for each such
byte. -/
namespace Issuance.Bytes

def isTail (b : UInt8) : Bool := 0x80 ≤ b && b < 0xC0

def leading (b : Bytes) : Option (Char × Nat) :=
  match b with
  | x :: rest =>
    let n := x.toNat
    let tails (k : Nat) : Option (List Nat) :=
      let ts := rest.take k
      if ts.length = k && ts.all isTail then some (ts.map fun t => t.toNat - 0x80) else none
    if n < 0x80 then some (Char.ofNat n, 1)
    else if 0xC2 ≤ n && n < 0xE0 then
      (tails 1).bind fun ts => some (Char.ofNat ((n - 0xC0) * 64 + ts.foldl (· + ·) 0), 2)
    else if 0xE0 ≤ n && n < 0xF0 then
      (tails 2).bind fun ts => match ts with
        | [a, c] =>
          let v := (n - 0xE0) * 4096 + a * 64 + c
          if v < 0x800 || (0xD800 ≤ v && v < 0xE000) then none else some (Char.ofNat v, 3)
        | _ => none
    else if 0xF0 ≤ n && n < 0xF5 then
      (tails 3).bind fun ts => match ts with
        | [a, c, d] =>
          let v := (n - 0xF0) * 262144 + a * 4096 + c * 64 + d
          if v < 0x10000 || v > 0x10FFFF then none else some (Char.ofNat v, 4)
        | _ => none
    else none
  | [] => none

/-- The characters of bytes, each ill-formed byte replaced. -/
def chars (b : Bytes) : List Char :=
  match _h : b with
  | [] => []
  | _ :: rest =>
    match leading b with
    | some (c, k) => c :: chars (b.drop (max k 1))
    | none => '�' :: chars rest
termination_by b.length
decreasing_by
  all_goals simp_all only [List.length_drop, List.length_cons]
  all_goals omega

/-- The characters of bytes as `chars` reads them, each with the byte it
replaces when that byte is ill-formed. -/
def charsMarked (b : Bytes) : List (Char × Option UInt8) :=
  match _h : b with
  | [] => []
  | x :: rest =>
    match leading b with
    | some (c, k) => (c, none) :: charsMarked (b.drop (max k 1))
    | none => ('�', some x) :: charsMarked rest
termination_by b.length
decreasing_by
  all_goals simp_all only [List.length_drop, List.length_cons]
  all_goals omega

def toTextLossy (b : Bytes) : String := String.ofList (chars b)

/-- The pieces of bytes written between double quotes: each character
escaped as in quoted text, each ill-formed byte as a hex escape. -/
def quotedPieces (b : Bytes) : List String :=
  match _h : b with
  | [] => []
  | x :: rest =>
    match leading b with
    | some (c, k) => Text.quoteChar '"' c :: quotedPieces (b.drop (max k 1))
    | none => ("\\x" ++ Text.hexDigits 2 x.toNat) :: quotedPieces rest
termination_by b.length
decreasing_by
  all_goals simp_all only [List.length_drop, List.length_cons]
  all_goals omega

def quoted (b : Bytes) : String := "\"" ++ String.join (quotedPieces b) ++ "\""

end Issuance.Bytes
