import Issuance.Json.Fields
import Issuance.Json.Parse
import Issuance.Json.Room
/-! # Reading a body into a typed shape

Only the first JSON value is read. A value lands on the field it names, up
to case; an unknown member is refused; `null` empties a list. A list read
over a list decodes over the old items, growing as `Room` says. The result
has every field in order, zero unless given. -/
namespace Issuance.Json

/-- The shape of a typed value. A record carries the name its type is known
by in messages about its parts (empty when it has none) and the text of its
type. -/
inductive Shape where
  | text
  | flag
  | unsigned (bits : Nat)
  | signed (bits : Nat)
  | many (item : Shape)
  | record (name typ : String) (fields : List (String × Shape))
  deriving Inhabited

namespace Shape

def typeText : Shape → String
  | .text => "string"
  | .flag => "bool"
  | .unsigned b => "uint" ++ toString b
  | .signed b => "int" ++ toString b
  | .many s => "[]" ++ s.typeText
  | .record _ t _ => t

/-- The name a shape's type is known by: a record's name, else none. -/
def name : Shape → String
  | .record n _ _ => n
  | _ => ""

mutual
def zero : Shape → Json
  | .text => .str ""
  | .flag => .bool false
  | .unsigned _ => .number "0"
  | .signed _ => .number "0"
  | .many _ => .null
  | .record _ _ fs => .obj (zeroFields fs)

def zeroFields : List (String × Shape) → List (String × Json)
  | [] => []
  | (k, s) :: fs => (k, zero s) :: zeroFields fs
end

end Shape

def digitsValue? (cs : List Char) : Option Nat :=
  if cs.isEmpty || !cs.all Char.isDigit then none
  else some (cs.foldl (fun acc c => acc * 10 + (c.toNat - 48)) 0)

def unsignedOf? (bits : Nat) (t : String) : Option Nat :=
  match digitsValue? t.toList with
  | some n => if n < Nat.pow 2 bits then some n else none
  | none => none

def signedOf? (bits : Nat) (t : String) : Option Int :=
  let (neg, ds) := match t.toList with
    | '-' :: r => (true, r)
    | '+' :: r => (false, r)
    | r => (false, r)
  match digitsValue? ds with
  | some n =>
    let v : Int := if neg then -(n : Int) else n
    if -(Int.pow 2 (bits - 1)) ≤ v && v < Int.pow 2 (bits - 1) then some v else none
  | none => none

namespace Shape

mutual
def layout : Shape → Nat × Nat
  | .text => (16, 8)
  | .flag => (1, 1)
  | .unsigned b => (b / 8, b / 8)
  | .signed b => (b / 8, b / 8)
  | .many _ => (24, 8)
  | .record _ _ fs =>
    let (size, align) := layoutFields fs 0 1
    ((size + align - 1) / align * align, align)

/-- Fields laid out one after another from an offset, each at its alignment:
where they end and their largest alignment. -/
def layoutFields : List (String × Shape) → Nat → Nat → Nat × Nat
  | [], off, align => (off, align)
  | (_, s) :: fs, off, align =>
    let (size, a) := layout s
    layoutFields fs ((off + a - 1) / a * a + size) (max align a)
end

mutual
def pointers : Shape → Bool
  | .text => true
  | .many _ => true
  | .record _ _ fs => fieldsPointers fs
  | _ => false

def fieldsPointers : List (String × Shape) → Bool
  | [] => false
  | (_, s) :: fs => pointers s || fieldsPointers fs
end

def grownRoom (item : Shape) (room : Nat) : Nat := Room.grown item.layout.1 item.pointers room

end Shape

/-- A value being read: plain JSON for text, flags and numbers; a list with
its whole room and length; no list; or a record's fields. -/
inductive Held where
  | plain (v : Json)
  | list (room : List Held) (length : Nat)
  | absent
  | record (fields : List (String × Held))
  deriving Inhabited

mutual
def Shape.start : Shape → Held
  | .many _ => .absent
  | .record _ _ fs => .record (Shape.startFields fs)
  | s => .plain s.zero

def Shape.startFields : List (String × Shape) → List (String × Held)
  | [] => []
  | (k, s) :: fs => (k, s.start) :: Shape.startFields fs
end

mutual
/-- The JSON value a held value stands for: a list is its items up to its
length, no list is `null`. -/
def Held.toJson : Held → Json
  | .plain v => v
  | .list room n => .arr (Held.itemsJson room n)
  | .absent => .null
  | .record fs => .obj (Held.fieldsJson fs)

/-- The JSON values of the first `n` held items. -/
def Held.itemsJson : List Held → Nat → List Json
  | [], _ => []
  | _, 0 => []
  | h :: hs, n + 1 => h.toJson :: Held.itemsJson hs n

def Held.fieldsJson : List (String × Held) → List (String × Json)
  | [] => []
  | (k, h) :: fs => (k, h.toJson) :: Held.fieldsJson fs
end

/-- The whole room of a held list, none for anything else. -/
def Held.room : Held → List Held
  | .list room _ => room
  | _ => []

def fieldAt (s : Shape) (cur : Held) (k : String) : Held :=
  match cur with
  | .record fs => ((fs.find? (·.1 == k)).map (·.2)).getD s.start
  | _ => s.start

def setField (cur : Held) (k : String) (v : Held) : Held :=
  match cur with
  | .record fs => .record (fs.map fun f => if f.1 == k then (k, v) else f)
  | h => h

def unknownField (k : String) : String := "json: unknown field " ++ Text.quoted k

mutual
def readAt (s : Shape) (p : Place) (v : Json) (cur : Held) : Decoding Held :=
  match s, v with
  | .many _, .null => pure .absent
  | _, .null => pure cur
  | .text, .str t => pure (.plain (.str t))
  | .flag, .bool b => pure (.plain (.bool b))
  | .unsigned b, .number t =>
    match unsignedOf? b t with
    | some n => pure (.plain (.number (toString n)))
    | none => do note (mismatch ("number " ++ t) p s.typeText); pure cur
  | .signed b, .number t =>
    match signedOf? b t with
    | some n => pure (.plain (.number (toString n)))
    | none => do note (mismatch ("number " ++ t) p s.typeText); pure cur
  | .many item, .arr vs => do
    let room ← readItems item p vs cur.room 0
    pure (if vs.isEmpty then .list [] 0 else .list room vs.length)
  | .record _ _ fields, .obj fs => readMembers fields p fs cur
  | s, v => do note (mismatch (kindOf v) p s.typeText); pure cur
termination_by structural v

/-- Read list items into a room at their indexes; an item just past the
room grows it with the item shape's starting value. -/
def readItems (item : Shape) (p : Place) (vs : List Json) (room : List Held) (i : Nat) :
    Decoding (List Held) :=
  match vs with
  | [] => pure room
  | v :: rest => do
    let room := if i < room.length then room
      else room ++ List.replicate (item.grownRoom room.length - room.length) item.start
    let x ← readAt item (p.item i) v (room.getD i item.start)
    readItems item p rest (room.set i x) (i + 1)
termination_by structural vs

def readMembers (fields : List (String × Shape)) (p : Place) (fs : List (String × Json))
    (cur : Held) : Decoding Held :=
  match fs with
  | [] => pure cur
  | (k, v) :: rest => do
    let cur' ← match pickField fields k with
      | some (f, s) => do
        let x ← readAt s (p.member k) v (fieldAt s cur f)
        pure (setField cur f x)
      | none => do note (unknownField k); pure cur
    readMembers fields p rest cur'
termination_by structural fs
end

/-- Why a body cannot be read: there is none, or it is not what its shape asks. -/
inductive BodyError where
  | empty
  | malformed (message : String)
  deriving DecidableEq, Repr

def Shape.readBody (s : Shape) (body : String) : Except BodyError Json :=
  let cs := body.toList.dropWhile isSpace
  if cs.isEmpty then .error .empty else
  match parsePrefix cs with
  | .error .truncated => .error (.malformed "unexpected EOF")
  | .error e => .error (.malformed e.message)
  | .ok (v, _) =>
    match (readAt s (Place.top s.name) v s.start).run none with
    | (_, some m) => .error (.malformed m)
    | (r, none) => .ok r.toJson

end Issuance.Json
