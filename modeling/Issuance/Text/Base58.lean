import Issuance.Text.Hex
/-! # Base58 text

Base58 writes a byte string as a number in base 58 over the alphabet that
leaves out `0`, `O`, `I` and `l`, with one `1` for every leading zero byte.
Reading gives the empty string for any character outside the alphabet. -/
namespace Issuance.Text.Base58

def alphabet : List Char := "123456789ABCDEFGHJKLMNPQRSTUVWXYZabcdefghijkmnopqrstuvwxyz".toList

def digitChar (d : Nat) : Char := alphabet.getD d '1'

def digitValue (c : Char) : Option Nat := alphabet.idxOf? c

/-- Base-58 digits of `n`, most significant first; zero has none. -/
def digits (n : Nat) : List Nat :=
  if n = 0 then [] else digits (n / 58) ++ [n % 58]
termination_by n
decreasing_by omega

/-- The number of base-58 digits, most significant first. -/
def ofDigits (ds : List Nat) : Nat := ds.foldl (fun acc d => acc * 58 + d) 0

def encode (b : Bytes) : String :=
  let zeros := (b.takeWhile (· = 0)).length
  String.ofList (List.replicate zeros '1' ++ (digits (Bytes.toNat b)).map digitChar)

/-- Bytes of base58 text; empty when a character is outside the alphabet. -/
def decode (s : String) : Bytes :=
  match s.toList.mapM digitValue with
  | none => []
  | some ds =>
    let zeros := (s.toList.takeWhile (· = '1')).length
    List.replicate zeros 0 ++ Bytes.ofNat (ofDigits ds)

end Issuance.Text.Base58
