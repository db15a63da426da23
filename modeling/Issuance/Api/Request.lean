import Issuance.Json
import Issuance.Address
/-! # Reading request fields

An integer field is a number or a decimal string; a missing or `null` field
reads as zero, empty or `false`. A wrong kind or range is a malformed
request naming the field. -/
namespace Issuance.Api

abbrev Read := Except String

def decimalInt? (s : String) : Option Int :=
  let cs := s.toList
  let (neg, ds) := match cs with
    | '-' :: r => (true, r)
    | '+' :: r => (false, r)
    | r => (false, r)
  if ds.isEmpty || !ds.all Char.isDigit then none
  else
    let n : Nat := ds.foldl (fun acc c => acc * 10 + (c.toNat - 48)) 0
    some (if neg then -(n : Int) else n)

/-- The whole number of a JSON value, `null` being zero. -/
def intOf (name : String) : Json → Read Int
  | .null => .ok 0
  | .number t => match decimalInt? t with
    | some n => .ok n
    | none => .error ("field " ++ name ++ " must be an integer, got " ++ Text.quoted t)
  | .str s => match decimalInt? (Text.trim s) with
    | some n => .ok n
    | none => .error ("field " ++ name ++ " must be an integer, got " ++ Text.quoted s)
  | _ => .error ("field " ++ name ++ " must be an integer")

def unsignedOf (name : String) (bits : Nat) (j : Json) : Read Nat := do
  let n ← intOf name j
  if 0 ≤ n ∧ n < Int.pow 2 bits then pure n.toNat
  else throw ("field " ++ name ++ " out of range for uint" ++ toString bits)

def signedOf (name : String) (j : Json) : Read Int := do
  let n ← intOf name j
  if -(Int.pow 2 63) ≤ n ∧ n < Int.pow 2 63 then pure n
  else throw ("field " ++ name ++ " out of range for int64")

/-- The member `k`, `null` when it is missing. -/
def member (j : Json) (k : String) : Json := (j.field? k).getD .null

def nat (j : Json) (k : String) (bits : Nat) : Read Nat := unsignedOf k bits (member j k)

def int (j : Json) (k : String) : Read Int := signedOf k (member j k)

def intOr (j : Json) (k : String) (d : Int) : Read Int :=
  if j.has k then int j k else pure d

def str (j : Json) (k : String) : Read String :=
  match member j k with
  | .null => .ok ""
  | .str s => .ok s
  | _ => .error ("field " ++ k ++ " must be a string")

def strOr (j : Json) (k : String) (d : String) : Read String :=
  match j.field? k with
  | none => .ok d
  | some _ => str j k

def bool (j : Json) (k : String) : Read Bool :=
  match member j k with
  | .null => .ok false
  | .bool b => .ok b
  | _ => .error ("field " ++ k ++ " must be a boolean")

def list (j : Json) (k : String) (f : Json → Read α) : Read (List α) :=
  match member j k with
  | .null => .ok []
  | .arr xs => xs.mapM f
  | _ => .error ("field " ++ k ++ " must be a list")

/-- List of unsigned numbers; an item out of range names the list. -/
def nats (j : Json) (k : String) (bits : Nat) : Read (List Nat) := list j k (unsignedOf k bits)

def strs (j : Json) (k : String) : Read (List String) :=
  list j k fun
    | .str s => .ok s
    | _ => .error ("field " ++ k ++ " must be a list of strings")

def hex (j : Json) (k : String) : Read Bytes := do
  match Text.ofHex (← str j k) with
  | .ok b => pure b
  | .error e => throw (k ++ ": " ++ e.message)

def address (j : Json) (k : String) : Read Address := do
  let b ← hex j k
  if b.isEmpty then pure Address.zero
  else match Address.ofBytes? b with
    | some a => pure a
    | none => throw ("field " ++ k ++ " must be 20 bytes")

def addressOf (k : String) : Json → Read Address
  | .str s => match Text.ofHex s with
    | .ok b => if b.isEmpty then .ok Address.zero else match Address.ofBytes? b with
      | some a => .ok a
      | none => .error ("field " ++ k ++ " must be 20 bytes")
    | .error e => .error (k ++ ": " ++ e.message)
  | .null => .ok Address.zero
  | _ => .error ("field " ++ k ++ " must be a string")

def objField (j : Json) (k : String) : Json :=
  match member j k with
  | .null => .obj []
  | v => v

def textMembers (j : Json) (k : String) : Read (List (String × String)) :=
  match member j k with
  | .obj fs => fs.mapM fun (n, v) => match v with
    | .str s => .ok (n, s)
    | _ => .error ("field " ++ k ++ " must map to strings")
  | .null => .ok []
  | _ => .error ("field " ++ k ++ " must be an object")

end Issuance.Api
