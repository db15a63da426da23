import Issuance.Keystore.Document
import Issuance.Json.Parse
import Issuance.Text.Uuid
import Issuance.Cipher.Aes
import Issuance.Kdf.Scrypt
import Issuance.SigningKey
/-! # Opening a keystore

The key is derived (scrypt or PBKDF2) and the MAC, Keccak-256 of the
derived key's second sixteen bytes and the ciphertext, checked before
decrypting: version 3 in counter mode, version 1 chained. -/
namespace Issuance.Keystore

open Decimal

def decryptFailed : String := "could not decrypt key with given password"

def dynamicType : Option Json → String
  | none | some .null => "nil"
  | some (.bool _) => "bool"
  | some (.number _) => "float64"
  | some (.str _) => "string"
  | some (.arr _) => "[]interface \x7b\x7d"
  | some (.obj _) => "map[string]interface \x7b\x7d"

def wrongType (found want : String) : Halt :=
  .fault ("interface conversion: interface \x7b\x7d is " ++ found ++ ", not " ++ want)

def textParam (ps : List (String × Json)) (k : String) : Except Halt String :=
  match param ps k with
  | some (.str s) => .ok s
  | v => .error (wrongType (dynamicType v) "string")

/-- A binary64 cut to a signed machine integer: its fraction dropped, and
any value outside the word's range taken to the least word. -/
def machineWord (x : Binary64) : Int :=
  match x.truncate with
  | some v => if -(Int.pow 2 63) ≤ v && v < Int.pow 2 63 then v else -(Int.pow 2 63)
  | none => -(Int.pow 2 63)

def intParam (ps : List (String × Json)) (k : String) : Except Halt Int :=
  match param ps k with
  | some (.number t) => .ok (machineWord ((Binary64.ofText? t).getD (.finite false 0 minExponent)))
  | v => .error (wrongType (dynamicType v) "float64")

def hexBytes (s : String) : Except Halt Bytes :=
  (Text.ofHex s).mapError fun e => .error e.message

/-- How many bytes the derivation gives for a requested length: whole
32-byte blocks, as the keys are cut from the first 32; a length of zero or
less is a fault. -/
def derivedLength (dkLen : Int) : Except Halt Nat :=
  if dkLen > 0 then .ok ((dkLen.toNat + 31) / 32 * 32)
  else if dkLen = 0 then .error (.fault "runtime error: slice bounds out of range [:32] with capacity 0")
  else if dkLen > -63 then
    .error (.fault ("runtime error: slice bounds out of range [:" ++ toString dkLen ++ "]"))
  else .error (.fault "runtime error: makeslice: cap out of range")

/-- The derived key of a password under a cipher part's derivation: the
salt and length are read first, whatever the method. -/
def derive (s : Sealed) (password : Bytes) : Except Halt Bytes := do
  let ps := s.kdfParams.getD []
  let salt ← hexBytes (← textParam ps "salt")
  let dkLen ← intParam ps "dklen"
  if s.kdf = "scrypt" then
    let n ← intParam ps "n"
    let r ← intParam ps "r"
    let p ← intParam ps "p"
    Kdf.checkCost n r p
    let len ← derivedLength dkLen
    pure (Kdf.scrypt password salt n.toNat r.toNat p.toNat len)
  else if s.kdf = "pbkdf2" then
    let c ← intParam ps "c"
    let prf ← textParam ps "prf"
    if prf ≠ "hmac-sha256" then throw (.error ("unsupported PBKDF2 PRF: " ++ prf))
    let len ← derivedLength dkLen
    pure (Kdf.pbkdf2 password salt c.toNat len)
  else throw (.error ("unsupported KDF: " ++ s.kdf))

def macMatches (derived cipherText mac : Bytes) : Bool :=
  Hash.Keccak.digest ((derived.drop 16).take 16 ++ cipherText) == mac

/-- Text with its padding removed: a last byte n from 1 to 16, no more than
the length, and the last n bytes all n. -/
def unpad (b : Bytes) : Option Bytes :=
  match b.getLast? with
  | none => none
  | some last =>
    let n := last.toNat
    if n = 0 || n > 16 || n > b.length then none
    else if (b.drop (b.length - n)).all (· = last) then some (b.take (b.length - n))
    else none

def plainThird (s : Sealed) (password : Bytes) : Except Halt Bytes := do
  if s.cipher ≠ "aes-128-ctr" then throw (.error ("cipher not supported: " ++ s.cipher))
  let mac ← hexBytes s.mac
  let iv ← hexBytes s.iv
  let cipherText ← hexBytes s.cipherText
  let derived ← derive s password
  if !macMatches derived cipherText mac then throw (.error decryptFailed)
  if iv.length ≠ 16 then throw (.fault "cipher.NewCTR: IV length must equal block size")
  pure (Cipher.Aes.ctr (derived.take 16) iv cipherText)

def plainFirst (s : Sealed) (password : Bytes) : Except Halt Bytes := do
  let mac ← hexBytes s.mac
  let iv ← hexBytes s.iv
  let cipherText ← hexBytes s.cipherText
  let derived ← derive s password
  if !macMatches derived cipherText mac then throw (.error decryptFailed)
  if iv.length ≠ 16 then throw (.fault "cipher.NewCBCDecrypter: IV length must equal block size")
  if cipherText.length % 16 ≠ 0 then throw (.fault "crypto/cipher: input not full blocks")
  let key := (Hash.Keccak.digest (derived.take 16)).take 16
  match unpad (Cipher.Aes.cbcDecrypt key iv cipherText) with
  | some plain => pure plain
  | none => throw (.error decryptFailed)

/-- The plaintext of a document in its layout; the third checks its version
first, both then read the id. -/
def plaintext (l : Layout) (d : Document) (password : Bytes) : Except Halt Bytes := do
  if l = .third && d.version ≠ 3 then
    throw (.error ("version not supported: " ++ toString d.version))
  let _ ← Halt.ofError (Text.Uuid.parse d.id)
  match l with
  | .third => plainThird d.sealed password
  | .first => plainFirst d.sealed password

def open? (text password : String) : Except Halt SigningKey := do
  let j ← (Json.parse text).mapError fun e => .error e.message
  let l ← Halt.ofError (layoutOf j)
  let d ← Halt.ofError (decode l j)
  let plain ← plaintext l d (Bytes.ofString password)
  (SigningKey.ofBytes plain).mapError fun e => .error ("invalid key: " ++ e)

theorem open_syntax (text password : String) (e : Json.SyntaxError) (h : Json.parse text = .error e) :
    open? text password = .error (.error e.message) := by
  simp [open?, h]
  rfl

end Issuance.Keystore
