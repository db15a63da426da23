import Issuance.Text.Hex
/-! # AES-128 and counter mode

Ten rounds over a 4×4 byte state with expanded round keys. Counter mode xors
the text with the encrypted big-endian counter from the IV; chained mode
decrypts each block and xors it with the one before. -/
namespace Issuance.Cipher.Aes

def sbox : Array UInt8 := #[
  0x63, 0x7c, 0x77, 0x7b, 0xf2, 0x6b, 0x6f, 0xc5, 0x30, 0x01, 0x67, 0x2b, 0xfe, 0xd7, 0xab, 0x76,
  0xca, 0x82, 0xc9, 0x7d, 0xfa, 0x59, 0x47, 0xf0, 0xad, 0xd4, 0xa2, 0xaf, 0x9c, 0xa4, 0x72, 0xc0,
  0xb7, 0xfd, 0x93, 0x26, 0x36, 0x3f, 0xf7, 0xcc, 0x34, 0xa5, 0xe5, 0xf1, 0x71, 0xd8, 0x31, 0x15,
  0x04, 0xc7, 0x23, 0xc3, 0x18, 0x96, 0x05, 0x9a, 0x07, 0x12, 0x80, 0xe2, 0xeb, 0x27, 0xb2, 0x75,
  0x09, 0x83, 0x2c, 0x1a, 0x1b, 0x6e, 0x5a, 0xa0, 0x52, 0x3b, 0xd6, 0xb3, 0x29, 0xe3, 0x2f, 0x84,
  0x53, 0xd1, 0x00, 0xed, 0x20, 0xfc, 0xb1, 0x5b, 0x6a, 0xcb, 0xbe, 0x39, 0x4a, 0x4c, 0x58, 0xcf,
  0xd0, 0xef, 0xaa, 0xfb, 0x43, 0x4d, 0x33, 0x85, 0x45, 0xf9, 0x02, 0x7f, 0x50, 0x3c, 0x9f, 0xa8,
  0x51, 0xa3, 0x40, 0x8f, 0x92, 0x9d, 0x38, 0xf5, 0xbc, 0xb6, 0xda, 0x21, 0x10, 0xff, 0xf3, 0xd2,
  0xcd, 0x0c, 0x13, 0xec, 0x5f, 0x97, 0x44, 0x17, 0xc4, 0xa7, 0x7e, 0x3d, 0x64, 0x5d, 0x19, 0x73,
  0x60, 0x81, 0x4f, 0xdc, 0x22, 0x2a, 0x90, 0x88, 0x46, 0xee, 0xb8, 0x14, 0xde, 0x5e, 0x0b, 0xdb,
  0xe0, 0x32, 0x3a, 0x0a, 0x49, 0x06, 0x24, 0x5c, 0xc2, 0xd3, 0xac, 0x62, 0x91, 0x95, 0xe4, 0x79,
  0xe7, 0xc8, 0x37, 0x6d, 0x8d, 0xd5, 0x4e, 0xa9, 0x6c, 0x56, 0xf4, 0xea, 0x65, 0x7a, 0xae, 0x08,
  0xba, 0x78, 0x25, 0x2e, 0x1c, 0xa6, 0xb4, 0xc6, 0xe8, 0xdd, 0x74, 0x1f, 0x4b, 0xbd, 0x8b, 0x8a,
  0x70, 0x3e, 0xb5, 0x66, 0x48, 0x03, 0xf6, 0x0e, 0x61, 0x35, 0x57, 0xb9, 0x86, 0xc1, 0x1d, 0x9e,
  0xe1, 0xf8, 0x98, 0x11, 0x69, 0xd9, 0x8e, 0x94, 0x9b, 0x1e, 0x87, 0xe9, 0xce, 0x55, 0x28, 0xdf,
  0x8c, 0xa1, 0x89, 0x0d, 0xbf, 0xe6, 0x42, 0x68, 0x41, 0x99, 0x2d, 0x0f, 0xb0, 0x54, 0xbb, 0x16]

def rcon : Array UInt8 := #[0x01, 0x02, 0x04, 0x08, 0x10, 0x20, 0x40, 0x80, 0x1b, 0x36]

def sub (b : UInt8) : UInt8 := sbox[b.toNat]!

def xtime (b : UInt8) : UInt8 := (b <<< 1) ^^^ (if b &&& 0x80 ≠ 0 then 0x1b else 0)

def expandKey (key : Bytes) : Array UInt8 :=
  (List.range 40).foldl (fun (w : Array UInt8) j =>
    let i := j + 4
    let prev := (List.range 4).map fun k => w[4 * (i - 1) + k]!
    let t := if i % 4 = 0 then
        match prev with
        | [a, b, c, d] => [sub b ^^^ rcon[i / 4 - 1]!, sub c, sub d, sub a]
        | _ => prev
      else prev
    (List.range 4).foldl (fun w k => w.push (w[4 * (i - 4) + k]! ^^^ t[k]!)) w) key.toArray

def addRoundKey (s : Array UInt8) (keys : Array UInt8) (r : Nat) : Array UInt8 :=
  (List.range 16).toArray.map fun i => s[i]! ^^^ keys[16 * r + i]!

/-- Row r shifted left by r; the state is column by column. -/
def shiftRows (s : Array UInt8) : Array UInt8 :=
  (List.range 16).toArray.map fun i =>
    let c := i / 4
    let r := i % 4
    s[4 * ((c + r) % 4) + r]!

def mixColumns (s : Array UInt8) : Array UInt8 :=
  (List.range 16).toArray.map fun i =>
    let c := i / 4
    let r := i % 4
    let a (k : Nat) := s[4 * c + (r + k) % 4]!
    xtime (a 0) ^^^ (xtime (a 1) ^^^ a 1) ^^^ a 2 ^^^ a 3

def encryptBlock (keys : Array UInt8) (block : Bytes) : Bytes :=
  let s := addRoundKey block.toArray keys 0
  let s := (List.range 9).foldl (fun s r =>
    addRoundKey (mixColumns (shiftRows (s.map sub))) keys (r + 1)) s
  (addRoundKey (shiftRows (s.map sub)) keys 10).toList

def ctr (key iv text : Bytes) : Bytes :=
  let keys := expandKey key
  let start := Bytes.toNat iv
  let blocks := (text.length + 15) / 16
  let stream := (List.range blocks).flatMap fun i =>
    encryptBlock keys (Bytes.ofNatWidth 16 ((start + i) % Nat.pow 2 128))
  (text.zip stream).map fun (x, y) => x ^^^ y

def invSbox : Array UInt8 :=
  (List.range 256).toArray.map fun i => (sbox.toList.idxOf i.toUInt8).toUInt8

def gmul (a b : UInt8) : UInt8 :=
  ((List.range 8).foldl (fun (acc, x) i =>
    ((if (b >>> i.toUInt8) &&& 1 = 1 then acc ^^^ x else acc), xtime x)) ((0 : UInt8), a)).1

def invShiftRows (s : Array UInt8) : Array UInt8 :=
  (List.range 16).toArray.map fun i =>
    let c := i / 4
    let r := i % 4
    s[4 * ((c + 4 - r) % 4) + r]!

def invMixColumns (s : Array UInt8) : Array UInt8 :=
  (List.range 16).toArray.map fun i =>
    let c := i / 4
    let r := i % 4
    let a (k : Nat) := s[4 * c + (r + k) % 4]!
    gmul 0x0e (a 0) ^^^ gmul 0x0b (a 1) ^^^ gmul 0x0d (a 2) ^^^ gmul 0x09 (a 3)

def decryptBlock (keys : Array UInt8) (block : Bytes) : Bytes :=
  let s := addRoundKey block.toArray keys 10
  let s := (List.range 9).foldl (fun s r =>
    invMixColumns (addRoundKey ((invShiftRows s).map fun b => invSbox[b.toNat]!) keys (9 - r))) s
  (addRoundKey ((invShiftRows s).map fun b => invSbox[b.toNat]!) keys 0).toList

def cbcDecrypt (key iv text : Bytes) : Bytes :=
  let keys := expandKey key
  let blocks := (List.range (text.length / 16)).map fun i => (text.drop (16 * i)).take 16
  ((blocks.foldl (fun (prev, out) c =>
    (c, out ++ ((decryptBlock keys c).zip prev).map fun (x, y) => x ^^^ y)) (iv, [])).2)

theorem ctr_length_le (key iv text : Bytes) : (ctr key iv text).length ≤ text.length := by
  simp only [ctr, List.length_map, List.length_zip]
  exact Nat.min_le_left _ _

end Issuance.Cipher.Aes
