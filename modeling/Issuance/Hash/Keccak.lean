import Issuance.Text.Hex
/-! # Keccak-256

The original Keccak padding (no domain bits), rate 136 bytes, over
Keccak-f[1600] on twenty-five 64-bit lanes, lane (x, y) at x + 5y. -/
namespace Issuance.Hash.Keccak

def roundConstants : List UInt64 :=
  [0x0000000000000001, 0x0000000000008082, 0x800000000000808A, 0x8000000080008000,
   0x000000000000808B, 0x0000000080000001, 0x8000000080008081, 0x8000000000008009,
   0x000000000000008A, 0x0000000000000088, 0x0000000080008009, 0x000000008000000A,
   0x000000008000808B, 0x800000000000008B, 0x8000000000008089, 0x8000000000008003,
   0x8000000000008002, 0x8000000000000080, 0x000000000000800A, 0x800000008000000A,
   0x8000000080008081, 0x8000000000008080, 0x0000000080000001, 0x8000000080008008]

def rotations : Array UInt64 :=
  #[0, 1, 62, 28, 27, 36, 44, 6, 55, 20, 3, 10, 43, 25, 39, 41, 45, 15, 21, 8, 18, 2, 61, 56, 14]

def rotl (x : UInt64) (n : UInt64) : UInt64 := (x <<< n) ||| (x >>> (64 - n))

def lane (a : Array UInt64) (x y : Nat) : UInt64 := a[(x % 5) + 5 * (y % 5)]!

def round (a : Array UInt64) (rc : UInt64) : Array UInt64 :=
  let parity := (List.range 5).toArray.map fun x =>
    lane a x 0 ^^^ lane a x 1 ^^^ lane a x 2 ^^^ lane a x 3 ^^^ lane a x 4
  let d := (List.range 5).toArray.map fun x => parity[(x + 4) % 5]! ^^^ rotl parity[(x + 1) % 5]! 1
  let a := (List.range 25).toArray.map fun i => a[i]! ^^^ d[i % 5]!
  -- the lane at (x, y) moves to (y, 2x + 3y), rotated
  let b := (List.range 25).foldl (fun (b : Array UInt64) i =>
    let x := i % 5
    let y := i / 5
    b.set! (y + 5 * ((2 * x + 3 * y) % 5)) (rotl a[i]! rotations[i]!)) (Array.replicate 25 0)
  let a := (List.range 25).toArray.map fun i =>
    let x := i % 5
    let y := i / 5
    lane b x y ^^^ ((~~~ lane b (x + 1) y) &&& lane b (x + 2) y)
  a.set! 0 (a[0]! ^^^ rc)

def permute (a : Array UInt64) : Array UInt64 := roundConstants.foldl round a

def rate : Nat := 136

def word (b : Bytes) : UInt64 :=
  b.foldr (fun x acc => (acc <<< 8) ||| x.toUInt64) 0

def wordBytes (w : UInt64) : Bytes := (List.range 8).map fun i => (w >>> (8 * i).toUInt64).toUInt8

def pad (msg : Bytes) : Bytes :=
  let k := rate - msg.length % rate
  if k = 1 then msg ++ [0x81]
  else msg ++ [0x01] ++ List.replicate (k - 2) 0 ++ [0x80]

def absorb (a : Array UInt64) (block : Bytes) : Array UInt64 :=
  let a := (List.range (rate / 8)).foldl (fun (a : Array UInt64) i =>
    a.set! i (a[i]! ^^^ word ((block.drop (8 * i)).take 8))) a
  permute a

def blocks (b : Bytes) : List Bytes :=
  (List.range (b.length / rate)).map fun i => (b.drop (i * rate)).take rate

def digest (msg : Bytes) : Bytes :=
  let a := (blocks (pad msg)).foldl absorb (Array.replicate 25 0)
  ((List.range 4).flatMap fun i => wordBytes a[i]!)

theorem pad_length (msg : Bytes) : (pad msg).length % rate = 0 := by
  simp only [pad, rate]
  by_cases h : 136 - msg.length % 136 = 1
  · simp only [h, if_true, List.length_append, List.length_singleton]
    omega
  · simp only [h, if_false, List.length_append, List.length_singleton, List.length_replicate]
    omega

end Issuance.Hash.Keccak
