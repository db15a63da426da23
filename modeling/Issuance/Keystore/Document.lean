import Issuance.Json.Fields
/-! # Keystore documents

JSON read twice: loosely for its version (only `"1"` selects the first
layout), then into that layout's record, matching members by name in any
case; the first wrong-kind member is reported at the end. -/
namespace Issuance.Keystore

open Json

/-- The cipher part of a keystore: cipher, ciphertext and IV, the key
derivation with its parameters (absent until given an object), and the MAC. -/
structure Sealed where
  cipher : String := ""
  cipherText : String := ""
  iv : String := ""
  kdf : String := ""
  kdfParams : Option (List (String × Json)) := none
  mac : String := ""
  deriving Inhabited

/-- A keystore document: address, cipher part, id and version. -/
structure Document where
  address : String := ""
  sealed : Sealed := {}
  id : String := ""
  version : Int := 0
  deriving Inhabited

inductive Layout where
  | first
  | third
  deriving DecidableEq, Repr

def Layout.record : Layout → String
  | .first => "encryptedKeyJSONV1"
  | .third => "encryptedKeyJSONV3"

/-- A parameter of the key derivation, the last one of that name. -/
def param (ps : List (String × Json)) (k : String) : Option Json :=
  (ps.reverse.find? (·.1 == k)).map (·.2)

def text (place : Place) (v : Json) (cur : String) : Decoding String :=
  match v with
  | .str s => pure s
  | .null => pure cur
  | j => do note (mismatch (kindOf j) place "string"); pure cur

def machineInt? (t : String) : Option Int :=
  let (neg, ds) := match t.toList with
    | '-' :: r => (true, r)
    | r => (false, r)
  if ds.isEmpty || !ds.all Char.isDigit then none else
  let n : Int := ds.foldl (fun acc c => acc * 10 + (c.toNat - 48)) 0
  let v := if neg then -n else n
  if -(Int.pow 2 63) ≤ v && v < Int.pow 2 63 then some v else none

def whole (place : Place) (v : Json) (cur : Int) : Decoding Int :=
  match v with
  | .number t => match machineInt? t with
    | some n => pure n
    | none => do note (mismatch ("number " ++ t) place "int"); pure cur
  | .null => pure cur
  | j => do note (mismatch (kindOf j) place "int"); pure cur

/-- The derivation parameters: an object adds its members to those held,
`null` drops them all. -/
def params (place : Place) (v : Json) (cur : Option (List (String × Json))) :
    Decoding (Option (List (String × Json))) :=
  match v with
  | .obj fs => pure (some (cur.getD [] ++ fs))
  | .null => pure none
  | j => do note (mismatch (kindOf j) place "map[string]interface \x7b\x7d"); pure cur

abbrev Setter (σ : Type) := Place → Json → σ → Decoding σ

/-- The members of an object at a place folded into a record: each by the
first field whose name it matches, the others skipped. -/
def members {σ : Type} (place : Place) (fields : List (String × Setter σ)) (fs : List (String × Json))
    (cur : σ) : Decoding σ :=
  fs.foldlM (fun s (k, x) =>
    match pickField fields k with
    | some (_, set) => set (place.member k) x s
    | none => pure s) cur

/-- A record field: an object fills it, `null` leaves it, anything else is
a mismatch. -/
def record {σ : Type} (typ : String) (fields : List (String × Setter σ)) : Setter σ :=
  fun place v cur =>
    match v with
    | .obj fs => members place fields fs cur
    | .null => pure cur
    | j => do note (mismatch (kindOf j) place typ); pure cur

def ivFields : List (String × Setter Sealed) :=
  [("iv", fun p v s => do pure { s with iv := ← text p v s.iv })]

def sealedFields : List (String × Setter Sealed) :=
  [("cipher", fun p v s => do pure { s with cipher := ← text p v s.cipher }),
   ("ciphertext", fun p v s => do pure { s with cipherText := ← text p v s.cipherText }),
   ("cipherparams", record "keystore.cipherparamsJSON" ivFields),
   ("kdf", fun p v s => do pure { s with kdf := ← text p v s.kdf }),
   ("kdfparams", fun p v s => do pure { s with kdfParams := ← params p v s.kdfParams }),
   ("mac", fun p v s => do pure { s with mac := ← text p v s.mac })]

/-- The fields of a document in a layout; the first layout's version is
text, which nothing reads after. -/
def documentFields (l : Layout) : List (String × Setter Document) :=
  [("address", fun p v d => do pure { d with address := ← text p v d.address }),
   ("crypto", fun p v d => do
      pure { d with sealed := ← record "keystore.CryptoJSON" sealedFields p v d.sealed }),
   ("id", fun p v d => do pure { d with id := ← text p v d.id }),
   ("version", fun p v d => match l with
      | .third => do pure { d with version := ← whole p v d.version }
      | .first => do let _ ← text p v ""; pure d)]

/-- A document read into a layout, or the first mismatch. -/
def decode (l : Layout) (j : Json) : Except String Document :=
  let (d, err) := (match j with
    | .obj fs => members (Place.top l.record) (documentFields l) fs {}
    | _ => pure {}).run none
  match err with
  | some m => .error m
  | none => .ok d

/-- The layout a document selects, after its loose reading: that reading
takes only an object (or `null`) and reads every number as a binary64. -/
def layoutOf (j : Json) : Except String Layout :=
  match j with
  | .obj fs =>
    match firstOverflowFields fs with
    | some t => .error ("json: cannot unmarshal number " ++ t ++ " into Go value of type float64")
    | none => if j.field? "version" matches some (.str "1") then .ok .first else .ok .third
  | .null => .ok .third
  | j => .error ("json: cannot unmarshal " ++ kindOf j ++ " into Go value of type map[string]interface \x7b\x7d")

end Issuance.Keystore
