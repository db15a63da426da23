import Issuance.Hash.Sha2
import Issuance.Halt
/-! # PBKDF2 and scrypt

PBKDF2-HMAC-SHA-256 iterates HMACs, 32 bytes a block. scrypt mixes
p·128·r bytes of it through N Salsa20/8 block mixes; N must be a power of
two above one. -/
namespace Issuance.Kdf

open Hash.Sha2

def indexBytes (i : Nat) : Bytes := Bytes.ofNatWidth 4 i

def xorBytes (a b : Bytes) : Bytes := (a.zip b).map fun (x, y) => x ^^^ y

def pbkdf2Block (password salt : Bytes) (c i : Nat) : Bytes :=
  let u1 := hmac Digest.sha256 password (salt ++ indexBytes i)
  ((List.range (c - 1)).foldl (fun (u, acc) _ =>
    let u' := hmac Digest.sha256 password u
    (u', xorBytes acc u')) (u1, u1)).2

def pbkdf2 (password salt : Bytes) (c len : Nat) : Bytes :=
  ((List.range ((len + 31) / 32)).flatMap fun i => pbkdf2Block password salt c (i + 1)).take len

def rotl (x : UInt32) (n : UInt32) : UInt32 := (x <<< n) ||| (x >>> (32 - n))

def quarter (x : Array UInt32) (a b c d : Nat) : Array UInt32 :=
  let x := x.set! b (x[b]! ^^^ rotl (x[a]! + x[d]!) 7)
  let x := x.set! c (x[c]! ^^^ rotl (x[b]! + x[a]!) 9)
  let x := x.set! d (x[d]! ^^^ rotl (x[c]! + x[b]!) 13)
  x.set! a (x[a]! ^^^ rotl (x[d]! + x[c]!) 18)

def doubleRound (x : Array UInt32) : Array UInt32 :=
  let x := quarter x 0 4 8 12
  let x := quarter x 5 9 13 1
  let x := quarter x 10 14 2 6
  let x := quarter x 15 3 7 11
  let x := quarter x 0 1 2 3
  let x := quarter x 5 6 7 4
  let x := quarter x 10 11 8 9
  quarter x 15 12 13 14

def salsa8 (b : Array UInt32) : Array UInt32 :=
  let x := (List.range 4).foldl (fun x _ => doubleRound x) b
  (List.range 16).toArray.map fun i => x[i]! + b[i]!

def xorWords (a b : Array UInt32) : Array UInt32 := (a.zip b).map fun (x, y) => x ^^^ y

/-- The block mix of 2r sixteen-word blocks: each mixed with the one before,
the even-numbered results first. -/
def blockMix (r : Nat) (b : Array UInt32) : Array UInt32 :=
  let blk (i : Nat) := b.extract (16 * i) (16 * i + 16)
  let (_, ys) := (List.range (2 * r)).foldl (fun (x, ys) i =>
    let y := salsa8 (xorWords x (blk i))
    (y, ys.push y)) (blk (2 * r - 1), (#[] : Array (Array UInt32)))
  let evens := (List.range r).map fun i => ys[2 * i]!
  let odds := (List.range r).map fun i => ys[2 * i + 1]!
  (evens ++ odds).foldl (· ++ ·) #[]

def integerify (r : Nat) (x : Array UInt32) : Nat :=
  x[16 * (2 * r - 1)]!.toNat + x[16 * (2 * r - 1) + 1]!.toNat * Nat.pow 2 32

def wordsOf (b : Bytes) : Array UInt32 :=
  (List.range (b.length / 4)).toArray.map fun i =>
    let w := (b.drop (4 * i)).take 4
    (w.foldr (fun (x : UInt8) acc => acc * 256 + x.toNat) 0).toUInt32

def bytesOf (w : Array UInt32) : Bytes :=
  w.toList.flatMap fun x => (List.range 4).map fun i => (x >>> (8 * i).toUInt32).toUInt8

def roMix (r n : Nat) (b : Bytes) : Bytes :=
  let x := wordsOf b
  let (x, table) := (List.range n).foldl (fun (x, v) _ => (blockMix r x, v.push x))
    (x, (#[] : Array (Array UInt32)))
  let x := (List.range n).foldl (fun x _ =>
    let j := integerify r x % n
    blockMix r (xorWords x table[j]!)) x
  bytesOf x

def maxInt : Int := Int.pow 2 63 - 1

/-- A machine integer as an unsigned word: its value modulo 2^64. -/
def unsignedWord (x : Int) : Nat := (x % Int.pow 2 64).toNat

/-- A quotient of machine integers, rounded toward zero; zero as divisor is a fault. -/
def quotient (a b : Int) : Except Halt Int :=
  if b = 0 then .error Halt.divideByZero else .ok (a.tdiv b)

/-- Check scrypt's costs in order: N a power of two above one; r·p below
2^30 and 128·r·p and 128·r·N within a signed word (zero p or r a fault). -/
def checkCost (n r p : Int) : Except Halt Unit := do
  if n ≤ 1 || n.toNat &&& (n.toNat - 1) ≠ 0 then
    throw (.error "scrypt: N must be > 1 and a power of 2")
  let tooLarge : Halt := .error "scrypt: parameters are too large"
  if unsignedWord r * unsignedWord p % Nat.pow 2 64 ≥ Nat.pow 2 30 then throw tooLarge
  if r > (← quotient (maxInt.tdiv 128) p) then throw tooLarge
  if r > maxInt.tdiv 256 then throw tooLarge
  if n > (← quotient (maxInt.tdiv 128) r) then throw tooLarge

def scrypt (password salt : Bytes) (n r p len : Nat) : Bytes :=
  let b := pbkdf2 password salt 1 (p * 128 * r)
  let mixed := (List.range p).flatMap fun i => roMix r n ((b.drop (i * 128 * r)).take (128 * r))
  pbkdf2 password mixed 1 len

theorem checkCost_not_power (n r p : Int) (h : 1 < n) (hp : n.toNat &&& (n.toNat - 1) ≠ 0) :
    checkCost n r p = .error (.error "scrypt: N must be > 1 and a power of 2") := by
  have h1 : ¬ n ≤ 1 := by omega
  simp [checkCost, h1, hp]
  rfl

end Issuance.Kdf
