import Issuance.Json.Shape
import Issuance.Text.Base64
import Issuance.Text.Instant
/-! # The response cache

Successful conversion answers kept by key as JSON text: status, base64 body,
stored and expiry times. An expired entry is deleted when read; pruning
deletes expired and unreadable entries. A closed cache refuses all. -/
namespace Issuance.Service

open Text

/-- The instant of the zero time, the first second of year one. -/
def zeroTime : Instant := ⟨-62135596800, 0⟩

/-- A cached answer: its status and body, and when it was stored and expires. -/
structure Cached where
  status : Int := 0
  body : Bytes := []
  storedAt : Instant := zeroTime
  expiresAt : Instant := zeroTime
  deriving DecidableEq, Repr

def Cached.toText (c : Cached) : String :=
  (Json.obj [("statusCode", .int c.status), ("body", .str (Base64.standard.encode c.body)),
    ("storedAt", .str c.storedAt.rfc3339Nano), ("expiresAt", .str c.expiresAt.rfc3339Nano)]).compact

/-- A time member: `null` keeps the time, text reads as general RFC 3339,
another kind is a mismatch; unreadable text stops reading, a mismatch is
remembered. -/
def timeMember (place : Json.Place) (v : Json) (cur : Instant) : Json.Decoding (Except String Instant) :=
  match v with
  | .null => pure (.ok cur)
  | .str s => pure (parseRfc3339 s)
  | j => do Json.note (Json.mismatch (Json.kindOf j) place "time.Time"); pure (.ok cur)

/-- A body's bytes as read: the buffer's whole room and how many are the
body; a later value reuses the room, items past the body starting from what
was left. -/
structure BodyBuffer where
  room : Bytes := []
  length : Nat := 0
  deriving DecidableEq, Repr

def BodyBuffer.bytes (b : BodyBuffer) : Bytes := b.room.take b.length

def BodyBuffer.exact (bs : Bytes) : BodyBuffer := ⟨bs, bs.length⟩

def decodedLength (s : String) : Nat :=
  (s.toList.reverse.dropWhile (· = '=')).length * 6 / 8

/-- Base64 text read into a buffer: into its room when that is large
enough, else into a fresh buffer of just the decoded size. -/
def BodyBuffer.decodeText (b : BodyBuffer) (s : String) : Except Nat BodyBuffer := do
  let n := decodedLength s
  let bs ← Base64.standard.decode s
  if b.room.length < n then pure (BodyBuffer.exact bs)
  else pure ⟨bs ++ b.room.drop bs.length, bs.length⟩

/-- One list item read into the buffer: a byte replaces the slot, `null`
leaves it, anything else is a mismatch. -/
def itemByte (place : Json.Place) (i : Nat) (x : Json) (old : UInt8) : Json.Decoding UInt8 :=
  match x with
  | .number t => match (Json.digitsValue? t.toList).filter (· < 256) with
    | some n => pure n.toUInt8
    | none => do Json.note (Json.mismatch ("number " ++ t) (place.item i) "uint8"); pure old
  | .null => pure old
  | j => do Json.note (Json.mismatch (Json.kindOf j) (place.item i) "uint8"); pure old

/-- A list read into the buffer item by item from the start, the room grown
when an item falls past it; an empty list leaves an empty buffer with no
room. -/
def BodyBuffer.readItems (place : Json.Place) (b : BodyBuffer) (xs : List Json) : Json.Decoding BodyBuffer := do
  let step := fun (room : Bytes) (p : Json × Nat) => do
    let (x, i) := p
    let room := if i < room.length then room
      else room ++ List.replicate (Json.Room.grown 1 false room.length - room.length) 0
    let v ← itemByte place i x (room.getD i 0)
    pure (room.set i v)
  let room ← xs.zipIdx.foldlM step b.room
  pure (if xs.isEmpty then {} else ⟨room, xs.length⟩)

/-- A body member read into the buffer: base64 text, a list of byte values,
or `null` for no body. -/
def bodyMember (place : Json.Place) (v : Json) (cur : BodyBuffer) : Json.Decoding BodyBuffer :=
  match v with
  | .null => pure {}
  | .str s => match cur.decodeText s with
    | .ok b => pure b
    | .error o => do
      Json.note (Json.mismatch "string" place "[]uint8" ++ ": " ++ Base64.corrupt o); pure cur
  | .arr xs => cur.readItems place xs
  | j => do Json.note (Json.mismatch (Json.kindOf j) place "[]uint8"); pure cur

def statusMember (place : Json.Place) (v : Json) (cur : Int) : Json.Decoding Int :=
  match v with
  | .null => pure cur
  | .number t => match Json.signedOf? 64 t with
    | some n => pure n
    | none => do Json.note (Json.mismatch ("number " ++ t) place "int"); pure cur
  | j => do Json.note (Json.mismatch (Json.kindOf j) place "int"); pure cur

def cachedFields : List (String × Unit) :=
  [("statusCode", ()), ("body", ()), ("storedAt", ()), ("expiresAt", ())]

/-- Read the members of an entry in order, the body into a buffer: a
time that does not read stops at once, other mismatches are remembered. -/
def readCached : List (String × Json) → Cached → BodyBuffer → Json.Decoding (Except String Cached)
  | [], c, b => pure (.ok { c with body := b.bytes })
  | (k, v) :: rest, c, b =>
    let place := (Json.Place.top "Record").member k
    match Json.pickField cachedFields k with
    | some ("statusCode", _) => do readCached rest { c with status := ← statusMember place v c.status } b
    | some ("body", _) => do readCached rest c (← bodyMember place v b)
    | some ("storedAt", _) => do
      match ← timeMember place v c.storedAt with
      | .ok t => readCached rest { c with storedAt := t } b
      | .error e => pure (.error e)
    | some ("expiresAt", _) => do
      match ← timeMember place v c.expiresAt with
      | .ok t => readCached rest { c with expiresAt := t } b
      | .error e => pure (.error e)
    | _ => readCached rest c b

def Cached.ofText (text : String) : Except String Cached :=
  match Json.parse text with
  | .error e => .error e.message
  | .ok .null => .ok {}
  | .ok (.obj fs) =>
    match (readCached fs {} {}).run none with
    | (.error e, _) => .error e
    | (.ok _, some m) => .error m
    | (.ok c, none) => .ok c
  | .ok j => .error (Json.mismatch (Json.kindOf j) (Json.Place.top "Record") "idempotency.Record")

/-- The key of an entry: the caller, method, path and the trimmed key the
client gave, joined by bars. -/
def cacheKey (caller method path key : String) : String :=
  "|".intercalate [caller, method, path, trim key]

/-- A response cache: its entries by key, their time to live in seconds,
and whether it is open. -/
structure Cache where
  entries : List (String × String) := []
  ttl : Int := 86400
  isOpen : Bool := true
  deriving DecidableEq, Repr

def notOpen : String := "database not open"

namespace Cache

/-- A cache with a time to live; zero or less means a day. -/
def withTtl (ttl : Int) (entries : List (String × String) := []) : Cache :=
  ⟨entries, if ttl ≤ 0 then 86400 else ttl, true⟩

def store (c : Cache) (k text : String) : Cache :=
  { c with entries := (c.entries.filter (·.1 != k)) ++ [(k, text)] }

def delete (c : Cache) (k : String) : Cache := { c with entries := c.entries.filter (·.1 != k) }

def expired (now : Int) (e : Cached) : Bool := Instant.before e.expiresAt ⟨now, 0⟩

def get (c : Cache) (now : Int) (k : String) : Except String (Option Cached) × Cache :=
  if !c.isOpen then (.error notOpen, c) else
  match (c.entries.find? (·.1 == k)).map (·.2) with
  | none => (.ok none, c)
  | some text =>
    match Cached.ofText text with
    | .error e => (.error e, c)
    | .ok e => if expired now e then (.ok none, c.delete k) else (.ok (some e), c)

def put (c : Cache) (now : Int) (k : String) (status : Int) (body : Bytes) : Except String Cache :=
  if !c.isOpen then .error notOpen else
  if k.isEmpty then .error "key required" else
  if k.utf8ByteSize > 32768 then .error "key too large" else
  .ok (c.store k (Cached.toText ⟨status, body, ⟨now, 0⟩, ⟨now + c.ttl, 0⟩⟩))

def prune (c : Cache) (now : Int) : Except String (Nat × Cache) :=
  if !c.isOpen then .error notOpen else
  let gone := fun (e : String × String) => match Cached.ofText e.2 with
    | .ok x => expired now x
    | .error _ => true
  .ok ((c.entries.filter gone).length, { c with entries := c.entries.filter (!gone ·) })

def close (c : Cache) : Cache := { c with isOpen := false }

theorem get_closed (c : Cache) (now : Int) (k : String) (h : c.isOpen = false) :
    c.get now k = (.error notOpen, c) := by
  simp [get, h]

end Cache

end Issuance.Service
