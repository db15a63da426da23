import Issuance.Text.Hex
/-! # SHA-256, SHA-384, SHA-512 and HMAC

Padding with a one bit, zeros and the bit length; blocks of 64 (or 128)
bytes compressed into eight words. SHA-384 is SHA-512 from its own start,
cut to 48 bytes. HMAC pads the key to a block, inside and out. -/
namespace Issuance.Hash.Sha2

def rotr32 (x : UInt32) (n : UInt32) : UInt32 := (x >>> n) ||| (x <<< (32 - n))

def rotr64 (x : UInt64) (n : UInt64) : UInt64 := (x >>> n) ||| (x <<< (64 - n))

def k256 : Array UInt32 := #[
  0x428a2f98, 0x71374491, 0xb5c0fbcf, 0xe9b5dba5, 0x3956c25b, 0x59f111f1, 0x923f82a4, 0xab1c5ed5,
  0xd807aa98, 0x12835b01, 0x243185be, 0x550c7dc3, 0x72be5d74, 0x80deb1fe, 0x9bdc06a7, 0xc19bf174,
  0xe49b69c1, 0xefbe4786, 0x0fc19dc6, 0x240ca1cc, 0x2de92c6f, 0x4a7484aa, 0x5cb0a9dc, 0x76f988da,
  0x983e5152, 0xa831c66d, 0xb00327c8, 0xbf597fc7, 0xc6e00bf3, 0xd5a79147, 0x06ca6351, 0x14292967,
  0x27b70a85, 0x2e1b2138, 0x4d2c6dfc, 0x53380d13, 0x650a7354, 0x766a0abb, 0x81c2c92e, 0x92722c85,
  0xa2bfe8a1, 0xa81a664b, 0xc24b8b70, 0xc76c51a3, 0xd192e819, 0xd6990624, 0xf40e3585, 0x106aa070,
  0x19a4c116, 0x1e376c08, 0x2748774c, 0x34b0bcb5, 0x391c0cb3, 0x4ed8aa4a, 0x5b9cca4f, 0x682e6ff3,
  0x748f82ee, 0x78a5636f, 0x84c87814, 0x8cc70208, 0x90befffa, 0xa4506ceb, 0xbef9a3f7, 0xc67178f2]

def h256 : Array UInt32 :=
  #[0x6a09e667, 0xbb67ae85, 0x3c6ef372, 0xa54ff53a, 0x510e527f, 0x9b05688c, 0x1f83d9ab, 0x5be0cd19]

def k512 : Array UInt64 := #[
  0x428a2f98d728ae22, 0x7137449123ef65cd, 0xb5c0fbcfec4d3b2f, 0xe9b5dba58189dbbc, 0x3956c25bf348b538,
  0x59f111f1b605d019, 0x923f82a4af194f9b, 0xab1c5ed5da6d8118, 0xd807aa98a3030242, 0x12835b0145706fbe,
  0x243185be4ee4b28c, 0x550c7dc3d5ffb4e2, 0x72be5d74f27b896f, 0x80deb1fe3b1696b1, 0x9bdc06a725c71235,
  0xc19bf174cf692694, 0xe49b69c19ef14ad2, 0xefbe4786384f25e3, 0x0fc19dc68b8cd5b5, 0x240ca1cc77ac9c65,
  0x2de92c6f592b0275, 0x4a7484aa6ea6e483, 0x5cb0a9dcbd41fbd4, 0x76f988da831153b5, 0x983e5152ee66dfab,
  0xa831c66d2db43210, 0xb00327c898fb213f, 0xbf597fc7beef0ee4, 0xc6e00bf33da88fc2, 0xd5a79147930aa725,
  0x06ca6351e003826f, 0x142929670a0e6e70, 0x27b70a8546d22ffc, 0x2e1b21385c26c926, 0x4d2c6dfc5ac42aed,
  0x53380d139d95b3df, 0x650a73548baf63de, 0x766a0abb3c77b2a8, 0x81c2c92e47edaee6, 0x92722c851482353b,
  0xa2bfe8a14cf10364, 0xa81a664bbc423001, 0xc24b8b70d0f89791, 0xc76c51a30654be30, 0xd192e819d6ef5218,
  0xd69906245565a910, 0xf40e35855771202a, 0x106aa07032bbd1b8, 0x19a4c116b8d2d0c8, 0x1e376c085141ab53,
  0x2748774cdf8eeb99, 0x34b0bcb5e19b48a8, 0x391c0cb3c5c95a63, 0x4ed8aa4ae3418acb, 0x5b9cca4f7763e373,
  0x682e6ff3d6b2b8a3, 0x748f82ee5defb2fc, 0x78a5636f43172f60, 0x84c87814a1f0ab72, 0x8cc702081a6439ec,
  0x90befffa23631e28, 0xa4506cebde82bde9, 0xbef9a3f7b2c67915, 0xc67178f2e372532b, 0xca273eceea26619c,
  0xd186b8c721c0c207, 0xeada7dd6cde0eb1e, 0xf57d4f7fee6ed178, 0x06f067aa72176fba, 0x0a637dc5a2c898a6,
  0x113f9804bef90dae, 0x1b710b35131c471b, 0x28db77f523047d84, 0x32caab7b40c72493, 0x3c9ebe0a15c9bebc,
  0x431d67c49c100d4c, 0x4cc5d4becb3e42b6, 0x597f299cfc657e2a, 0x5fcb6fab3ad6faec, 0x6c44198c4a475817]

def h512 : Array UInt64 :=
  #[0x6a09e667f3bcc908, 0xbb67ae8584caa73b, 0x3c6ef372fe94f82b, 0xa54ff53a5f1d36f1,
    0x510e527fade682d1, 0x9b05688c2b3e6c1f, 0x1f83d9abfb41bd6b, 0x5be0cd19137e2179]

def h384 : Array UInt64 :=
  #[0xcbbb9d5dc1059ed8, 0x629a292a367cd507, 0x9159015a3070dd17, 0x152fecd8f70e5939,
    0x67332667ffc00b31, 0x8eb44a8768581511, 0xdb0c2e0d64f98fa7, 0x47b5481dbefa4fa4]

def beWord (b : Bytes) : Nat := Bytes.toNat b

/-- The message padded to whole blocks of `block` bytes, its bit length in
`lenBytes` bytes at the end. -/
def pad (block lenBytes : Nat) (msg : Bytes) : Bytes :=
  let l := msg.length
  let zeros := (block - (l + 1 + lenBytes) % block) % block
  msg ++ [0x80] ++ List.replicate zeros 0 ++ Bytes.ofNatWidth lenBytes (8 * l)

def blocks (block : Nat) (b : Bytes) : List Bytes :=
  (List.range (b.length / block)).map fun i => (b.drop (i * block)).take block

def compress256 (h : Array UInt32) (block : Bytes) : Array UInt32 :=
  let w0 := (List.range 16).map fun i => (beWord ((block.drop (4 * i)).take 4)).toUInt32
  let w := (List.range 48).foldl (fun (w : Array UInt32) i =>
    let t := i + 16
    let s0 := rotr32 w[t - 15]! 7 ^^^ rotr32 w[t - 15]! 18 ^^^ (w[t - 15]! >>> 3)
    let s1 := rotr32 w[t - 2]! 17 ^^^ rotr32 w[t - 2]! 19 ^^^ (w[t - 2]! >>> 10)
    w.push (w[t - 16]! + s0 + w[t - 7]! + s1)) w0.toArray
  let v := (List.range 64).foldl (fun (v : Array UInt32) i =>
    let (a, b, c, d, e, f, g, hh) := (v[0]!, v[1]!, v[2]!, v[3]!, v[4]!, v[5]!, v[6]!, v[7]!)
    let s1 := rotr32 e 6 ^^^ rotr32 e 11 ^^^ rotr32 e 25
    let ch := (e &&& f) ^^^ ((~~~ e) &&& g)
    let t1 := hh + s1 + ch + k256[i]! + w[i]!
    let s0 := rotr32 a 2 ^^^ rotr32 a 13 ^^^ rotr32 a 22
    let maj := (a &&& b) ^^^ (a &&& c) ^^^ (b &&& c)
    let t2 := s0 + maj
    #[t1 + t2, a, b, c, d + t1, e, f, g]) h
  (List.range 8).toArray.map fun i => h[i]! + v[i]!

def compress512 (h : Array UInt64) (block : Bytes) : Array UInt64 :=
  let w0 := (List.range 16).map fun i => (beWord ((block.drop (8 * i)).take 8)).toUInt64
  let w := (List.range 64).foldl (fun (w : Array UInt64) i =>
    let t := i + 16
    let s0 := rotr64 w[t - 15]! 1 ^^^ rotr64 w[t - 15]! 8 ^^^ (w[t - 15]! >>> 7)
    let s1 := rotr64 w[t - 2]! 19 ^^^ rotr64 w[t - 2]! 61 ^^^ (w[t - 2]! >>> 6)
    w.push (w[t - 16]! + s0 + w[t - 7]! + s1)) w0.toArray
  let v := (List.range 80).foldl (fun (v : Array UInt64) i =>
    let (a, b, c, d, e, f, g, hh) := (v[0]!, v[1]!, v[2]!, v[3]!, v[4]!, v[5]!, v[6]!, v[7]!)
    let s1 := rotr64 e 14 ^^^ rotr64 e 18 ^^^ rotr64 e 41
    let ch := (e &&& f) ^^^ ((~~~ e) &&& g)
    let t1 := hh + s1 + ch + k512[i]! + w[i]!
    let s0 := rotr64 a 28 ^^^ rotr64 a 34 ^^^ rotr64 a 39
    let maj := (a &&& b) ^^^ (a &&& c) ^^^ (b &&& c)
    let t2 := s0 + maj
    #[t1 + t2, a, b, c, d + t1, e, f, g]) h
  (List.range 8).toArray.map fun i => h[i]! + v[i]!

def sha256 (msg : Bytes) : Bytes :=
  let h := (blocks 64 (pad 64 8 msg)).foldl compress256 h256
  h.toList.flatMap fun x => Bytes.ofNatWidth 4 x.toNat

def sha512 (msg : Bytes) : Bytes :=
  let h := (blocks 128 (pad 128 16 msg)).foldl compress512 h512
  h.toList.flatMap fun x => Bytes.ofNatWidth 8 x.toNat

def sha384 (msg : Bytes) : Bytes :=
  let h := (blocks 128 (pad 128 16 msg)).foldl compress512 h384
  (h.toList.flatMap fun x => Bytes.ofNatWidth 8 x.toNat).take 48

structure Digest where
  run : Bytes → Bytes
  block : Nat

def Digest.sha256 : Digest := ⟨Sha2.sha256, 64⟩

def Digest.sha384 : Digest := ⟨Sha2.sha384, 128⟩

def Digest.sha512 : Digest := ⟨Sha2.sha512, 128⟩

def hmac (d : Digest) (key msg : Bytes) : Bytes :=
  let k := if key.length > d.block then d.run key else key
  let k := k ++ List.replicate (d.block - k.length) 0
  let inner := d.run (k.map (· ^^^ 0x36) ++ msg)
  d.run (k.map (· ^^^ 0x5c) ++ inner)

theorem hmac_short_key (d : Digest) (key msg : Bytes) (h : key.length ≤ d.block) :
    hmac d key msg = d.run ((key ++ List.replicate (d.block - key.length) 0).map (· ^^^ 0x5c) ++
      d.run ((key ++ List.replicate (d.block - key.length) 0).map (· ^^^ 0x36) ++ msg)) := by
  simp [hmac, Nat.not_lt.mpr h]

end Issuance.Hash.Sha2
