import Issuance.Json
import Issuance.Text.Case
import Issuance.Decimal.Binary
/-! # Reading JSON members into typed fields

A member fills the field of its name, up to case. A wrong kind leaves the
field; the first mismatch is reported at the end with the path and types. -/
namespace Issuance.Json

def kindOf : Json → String
  | .null => "null"
  | .bool _ => "bool"
  | .number _ => "number"
  | .str _ => "string"
  | .arr _ => "array"
  | .obj _ => "object"

/-- Whether a member name matches a field name up to case: the same number
of characters, each pair in one case folding class. -/
def sameName (member field : String) : Bool := Text.equalFold member field

/-- The field a member name selects: the one of that exact name, else the
first whose name matches up to case. -/
def pickField {α : Type} (fields : List (String × α)) (member : String) : Option (String × α) :=
  fields.find? (·.1 == member) <|> fields.find? (fun f => sameName member f.1)

/-- A step from a value into one of its parts: a member, by the name the
input spells it with, or an item, by its index. -/
inductive PathStep where
  | member (name : String)
  | item (index : Nat)
  deriving DecidableEq, Repr

def PathStep.text : PathStep → String
  | .member name => name
  | .item i => toString i

/-- Where a value lands: the name of the type read at the top (empty for a
type without a name), and the steps from the top to the value. -/
structure Place where
  root : String
  path : List PathStep
  deriving DecidableEq, Repr

def Place.top (root : String) : Place := ⟨root, []⟩

def Place.member (p : Place) (name : String) : Place := ⟨p.root, p.path ++ [.member name]⟩

def Place.item (p : Place) (i : Nat) : Place := ⟨p.root, p.path ++ [.item i]⟩

/-- The message of a value of the wrong kind: for the whole value at the
top, else at its path from the top, called a struct field when the last
step is a member. -/
def mismatch (value : String) (place : Place) (typ : String) : String :=
  match place.path.getLast? with
  | none => "json: cannot unmarshal " ++ value ++ " into Go value of type " ++ typ
  | some last =>
    let spot := place.root ++ "." ++ ".".intercalate (place.path.map PathStep.text)
    let kind := match last with
      | .member _ => "Go struct field "
      | .item _ => ""
    "json: cannot unmarshal " ++ value ++ " into " ++ kind ++ spot ++ " of type " ++ typ

abbrev Decoding := StateM (Option String)

def note (message : String) : Decoding Unit := modify fun e => e <|> some message

mutual
/-- The first number of a value too large for a binary64, in the order written. -/
def firstOverflow : Json → Option String
  | .number t => if ((Decimal.Binary64.ofText? t).map Decimal.Binary64.isFinite).getD true then none
    else some t
  | .arr items => firstOverflowItems items
  | .obj fs => firstOverflowFields fs
  | _ => none

/-- The first number of a list too large for a binary64. -/
def firstOverflowItems : List Json → Option String
  | [] => none
  | x :: xs => firstOverflow x <|> firstOverflowItems xs

/-- The first number of some members too large for a binary64. -/
def firstOverflowFields : List (String × Json) → Option String
  | [] => none
  | (_, x) :: xs => firstOverflow x <|> firstOverflowFields xs
end

end Issuance.Json
