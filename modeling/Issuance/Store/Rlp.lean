import Issuance.Text.Hex
/-! # Recursive length prefix

A byte below 0x80 is itself, other strings carry a length prefix, a list the
length of its items; numbers are shortest big-endian bytes, a record the
list of its fields. Reading follows the expected shape and reports the
first mismatch with its path; trailing text is refused. -/
namespace Issuance.Store.Rlp

inductive Value
  | num (n : Nat)
  | flag (b : Bool)
  | bytes (b : Bytes)
  | items (vs : List Value)
  deriving Repr, Inhabited, BEq

/-- What a reader expects, with the type name used in messages. -/
inductive Shape
  | uint (bits : Nat)
  | bool
  | text (name : String)
  | fixed (n : Nat) (name : String)
  | blob
  | seq (elem : Shape) (name : String)
  | record (name : String) (fields : List (String × Shape))
  deriving Repr, Inhabited

def Shape.name : Shape → String
  | .uint b => "uint" ++ toString b
  | .bool => "bool"
  | .text n => n
  | .fixed _ n => n
  | .blob => "[]uint8"
  | .seq _ n => n
  | .record n _ => n

def header (offset n : Nat) : Bytes :=
  if n < 56 then [(offset + n).toUInt8]
  else let l := Bytes.ofNat n; (offset + 55 + l.length).toUInt8 :: l

def encodeBytes (b : Bytes) : Bytes :=
  match b with
  | [x] => if x < 128 then [x] else header 128 1 ++ b
  | _ => header 128 b.length ++ b

mutual
def encode : Value → Bytes
  | .num n => encodeBytes (Bytes.ofNat n)
  | .flag b => if b then [1] else [128]
  | .bytes b => encodeBytes b
  | .items vs => let p := encodeAll vs; header 192 p.length ++ p

def encodeAll : List Value → Bytes
  | [] => []
  | v :: vs => encode v ++ encodeAll vs
end

/-- Failures of the reading position itself, before a type is known. -/
inductive Low
  | canonSize
  | canonInt
  | expectedString
  | expectedList
  | uintOverflow
  | notAtEnd
  | eol
  | tooLarge
  | elemTooLarge
  | eof
  deriving DecidableEq, Repr

def Low.text : Low → String
  | .canonSize => "rlp: non-canonical size information"
  | .canonInt => "rlp: non-canonical integer format"
  | .expectedString => "rlp: expected String or Byte"
  | .expectedList => "rlp: expected List"
  | .uintOverflow => "rlp: uint overflow"
  | .notAtEnd => "rlp: call of ListEnd not positioned at EOL"
  | .eol => "rlp: end of list"
  | .tooLarge => "rlp: value size exceeds available input length"
  | .elemTooLarge => "rlp: element is larger than containing list"
  | .eof => "EOF"

/-- Why a text cannot be read: a mismatch naming the type and the path to
it (innermost last), a position failure passed on, or another message. -/
inductive DecodeError
  | typed (msg : String) (typ : String) (path : List String)
  | low (e : Low)
  | plain (msg : String)
  deriving DecidableEq, Repr

/-- The message of a reading failure; the path is outermost first. -/
def DecodeError.message : DecodeError → String
  | .typed m t [] => "rlp: " ++ m ++ " for " ++ t
  | .typed m t p => "rlp: " ++ m ++ " for " ++ t ++ ", decoding into " ++ String.join p
  | .low e => e.text
  | .plain m => m

/-- The same failure one step further out; only a typed failure records it. -/
def DecodeError.inside (step : String) : DecodeError → DecodeError
  | .typed m t p => .typed m t (step :: p)
  | e => e

/-- A failure of the reading position met by a reader of type `t`: the six
that concern the value's form name the type, the others pass on. -/
def Low.typed (e : Low) (t : String) : DecodeError :=
  match e with
  | .canonInt => .typed "non-canonical integer (leading zero bytes)" t []
  | .canonSize => .typed "non-canonical size information" t []
  | .expectedList => .typed "expected input list" t []
  | .expectedString => .typed "expected input string or byte" t []
  | .uintOverflow => .typed "input string too long" t []
  | .notAtEnd => .typed "input list has too many elements" t []
  | e => .low e

/-- The kind of the next item: one byte, a string of `size` bytes, or a list. -/
inductive Kind
  | byte (b : UInt8)
  | str (size : Nat)
  | list (size : Nat)
  deriving DecidableEq, Repr

def Kind.size : Kind → Nat
  | .byte _ => 0
  | .str s => s
  | .list s => s

/-- A reading position: bytes unread and each open list's bytes left,
innermost first, as 64-bit words that wrap when a list overruns its
parent. -/
structure Stream where
  input : Bytes
  lists : List Nat
  deriving DecidableEq, Repr

def wordSub (a b : Nat) : Nat := if b ≤ a then a - b else Nat.pow 2 64 - (b - a) % Nat.pow 2 64

namespace Stream

def take (n : Nat) (s : Stream) : Except Low (Bytes × Stream) := do
  let lists ← match s.lists with
    | l :: ls => if n > l then throw Low.elemTooLarge else pure ((l - n) :: ls)
    | [] => pure []
  if n > s.input.length then throw .tooLarge
  pure (s.input.take n, ⟨s.input.drop n, lists⟩)

/-- A big-endian size of `n` bytes (one to eight) after a long header; a
leading zero byte is not canonical. -/
def sizeField (n : Nat) (s : Stream) : Except Low (Nat × Stream) := do
  let (v, s) ← s.take n
  if n > 1 && v.head? = some 0 then throw .canonSize
  pure (Bytes.toNat v, s)

/-- The header of the next item. At the top level, a missing first byte is
the end of the input. -/
def header (s : Stream) : Except Low (Kind × Stream) := do
  let (x, s) ← match s.take 1 with
    | .ok ([x], r) => pure (x, r)
    | .ok (_, r) => pure (0, r)
    | .error e => throw (if s.lists.isEmpty && e = .tooLarge then .eof else e)
  if x < 0x80 then pure (.byte x, s)
  else if x < 0xB8 then pure (.str (x.toNat - 0x80), s)
  else if x < 0xC0 then do
    let (n, s) ← sizeField (x.toNat - 0xB7) s
    if n < 56 then throw .canonSize
    pure (.str n, s)
  else if x < 0xF8 then pure (.list (x.toNat - 0xC0), s)
  else do
    let (n, s) ← sizeField (x.toNat - 0xF7) s
    if n < 56 then throw .canonSize
    pure (.list n, s)

/-- The kind of the next item, header read: the end of the list when none
is left, refused when its payload exceeds the list or the input. -/
def kind (s : Stream) : Except Low (Kind × Stream) := do
  if s.lists.head? = some 0 then throw .eol
  let (k, s') ← s.header
  match s.lists.head? with
  | some l => if k.size > l then throw .elemTooLarge
  | none => pure ()
  if k.size > s'.input.length then throw .tooLarge
  pure (k, s')

def uint (bits : Nat) (s : Stream) : Except Low (Nat × Stream) := do
  match ← s.kind with
  | (.byte x, s) => if x = 0 then throw .canonInt else pure (x.toNat, s)
  | (.str n, s) =>
    if n > bits / 8 then throw .uintOverflow
    let (v, s) ← s.take n
    if n > 1 && v.head? = some 0 then throw .canonInt
    let v := Bytes.toNat v
    if n > 0 && v < 128 then throw .canonSize
    pure (v, s)
  | (.list _, _) => throw .expectedString

def bytes (s : Stream) : Except Low (Bytes × Stream) := do
  match ← s.kind with
  | (.byte x, s) => pure ([x], s)
  | (.str n, s) =>
    let (v, s) ← s.take n
    if n = 1 && v.head?.getD 0 < 128 then throw .canonSize
    pure (v, s)
  | (.list _, _) => throw .expectedString

def enter (s : Stream) : Except Low (Nat × Stream) := do
  match ← s.kind with
  | (.list n, s) =>
    let lists := match s.lists with
      | l :: ls => wordSub l n :: ls
      | [] => []
    pure (n, ⟨s.input, n :: lists⟩)
  | _ => throw .expectedList

def leave (s : Stream) : Except Low Stream :=
  match s.lists with
  | l :: ls => if l > 0 then .error .notAtEnd else .ok ⟨s.input, ls⟩
  | [] => .ok s

end Stream

abbrev Got := Except DecodeError (Value × Stream)

def lowIn (t : String) : Except Low α → Except DecodeError α
  | .ok a => .ok a
  | .error e => .error (e.typed t)

def lowAsIs : Except Low α → Except DecodeError α
  | .ok a => .ok a
  | .error e => .error (.low e)

mutual
def readValue : Nat → Shape → Stream → Got
  | 0, _, _ => .error (.low .eof)
  | fuel + 1, shape, s =>
    match shape with
    | .uint bits => do
      let (n, s) ← lowIn shape.name (s.uint bits)
      pure (.num n, s)
    | .bool => do
      let (n, s) ← lowIn shape.name (s.uint 8)
      if n = 0 then pure (.flag false, s)
      else if n = 1 then pure (.flag true, s)
      else throw (.plain ("rlp: invalid boolean value: " ++ toString n))
    | .text _ | .blob => do
      let (v, s) ← lowIn shape.name s.bytes
      pure (.bytes v, s)
    | .fixed n name => do
      match ← lowAsIs s.kind with
      | (.byte x, s) =>
        if n = 0 then throw (.typed "input string too long" name [])
        else if n > 1 then throw (.typed "input string too short" name [])
        else pure (.bytes [x], s)
      | (.str m, s) =>
        if n < m then throw (.typed "input string too long" name [])
        else if n > m then throw (.typed "input string too short" name [])
        let (v, s) ← lowAsIs (s.take m)
        if m = 1 && v.head?.getD 0 < 128 then throw (Low.canonSize.typed name)
        pure (.bytes v, s)
      | (.list _, _) => throw (Low.expectedString.typed name)
    | .seq elem name => do
      let (n, s) ← lowIn name s.enter
      let (vs, s) ← if n = 0 then pure ([], s) else readElems fuel elem 0 s
      let s ← lowAsIs s.leave
      pure (.items vs, s)
    | .record name fields => do
      let (_, s) ← lowIn name s.enter
      let (vs, s) ← readFields fuel name fields s
      let s ← lowIn name s.leave
      pure (.items vs, s)

/-- Items of a list until its end; a failure names the index. -/
def readElems : Nat → Shape → Nat → Stream → Except DecodeError (List Value × Stream)
  | 0, _, _, _ => .error (.low .eof)
  | fuel + 1, elem, i, s =>
    match readValue fuel elem s with
    | .error (.low .eol) => .ok ([], s)
    | .error e => .error (e.inside ("[" ++ toString i ++ "]"))
    | .ok (v, s) => (readElems fuel elem (i + 1) s).map fun (vs, s) => (v :: vs, s)

/-- Fields of a record in order; running out of the list before the last is
too few elements. -/
def readFields : Nat → String → List (String × Shape) → Stream → Except DecodeError (List Value × Stream)
  | 0, _, _, _ => .error (.low .eof)
  | _ + 1, _, [], s => .ok ([], s)
  | fuel + 1, name, (f, shape) :: fs, s =>
    match readValue fuel shape s with
    | .error (.low .eol) => .error (.typed "too few elements" name [])
    | .error e => .error (e.inside ("." ++ f))
    | .ok (v, s) => (readFields fuel name fs s).map fun (vs, s) => (v :: vs, s)
end

/-- The one value of a shape that a text holds; the outermost type is named
before the path of a failure. -/
def decode (shape : Shape) (b : Bytes) : Except DecodeError Value :=
  match readValue (2 * b.length + 2) shape ⟨b, []⟩ with
  | .error (.typed m t p@(_ :: _)) => .error (.typed m t (("(" ++ shape.name ++ ")") :: p))
  | .error e => .error e
  | .ok (v, s) =>
    if s.input.isEmpty then .ok v else .error (.plain "rlp: input contains more than one value")

/-- The first item of a text, undecoded, with nothing left over. -/
def decodeRaw (b : Bytes) : Except DecodeError Bytes :=
  match (Stream.kind ⟨b, []⟩).bind fun (k, s) => (s.take k.size).map fun (_, s) => s with
  | .error e => .error (.low e)
  | .ok s =>
    if s.input.isEmpty then .ok b else .error (.plain "rlp: input contains more than one value")

end Issuance.Store.Rlp
