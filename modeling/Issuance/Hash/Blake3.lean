import Issuance.Text.Hex
/-! # BLAKE3

The unkeyed 256-bit digest: 1024-byte chunks of 64-byte blocks, joined in a
binary tree whose left part is the largest power of two of chunks leaving
one to the right; the root is compressed with the root flag. -/
namespace Issuance.Hash.Blake3

def iv : Array UInt32 :=
  #[0x6A09E667, 0xBB67AE85, 0x3C6EF372, 0xA54FF53A, 0x510E527F, 0x9B05688C, 0x1F83D9AB, 0x5BE0CD19]

def schedule : Array Nat := #[2, 6, 3, 10, 7, 0, 4, 13, 1, 11, 12, 5, 9, 14, 15, 8]

def chunkStart : UInt32 := 1
def chunkEnd : UInt32 := 2
def parentFlag : UInt32 := 4
def rootFlag : UInt32 := 8

def rotr (x : UInt32) (n : UInt32) : UInt32 := (x >>> n) ||| (x <<< (32 - n))

def mix (s : Array UInt32) (a b c d : Nat) (x y : UInt32) : Array UInt32 :=
  let va := s[a]! + s[b]! + x
  let vd := rotr (s[d]! ^^^ va) 16
  let vc := s[c]! + vd
  let vb := rotr (s[b]! ^^^ vc) 12
  let va := va + vb + y
  let vd := rotr (vd ^^^ va) 8
  let vc := vc + vd
  let vb := rotr (vb ^^^ vc) 7
  ((s.set! a va).set! b vb |>.set! c vc).set! d vd

def round (s m : Array UInt32) : Array UInt32 :=
  let s := mix s 0 4 8 12 m[0]! m[1]!
  let s := mix s 1 5 9 13 m[2]! m[3]!
  let s := mix s 2 6 10 14 m[4]! m[5]!
  let s := mix s 3 7 11 15 m[6]! m[7]!
  let s := mix s 0 5 10 15 m[8]! m[9]!
  let s := mix s 1 6 11 12 m[10]! m[11]!
  let s := mix s 2 7 8 13 m[12]! m[13]!
  mix s 3 4 9 14 m[14]! m[15]!

def permute (m : Array UInt32) : Array UInt32 := schedule.map (m[·]!)

def rounds : Nat → Array UInt32 → Array UInt32 → Array UInt32
  | 0, s, _ => s
  | n + 1, s, m => rounds n (round s m) (permute m)

def compress (cv block : Array UInt32) (counter : Nat) (len flags : UInt32) : Array UInt32 :=
  let s0 := cv ++ iv.extract 0 4 ++ #[counter.toUInt32, (counter / Nat.pow 2 32).toUInt32, len, flags]
  let s := rounds 7 s0 block
  (Array.range 8).map (fun i => s[i]! ^^^ s[i + 8]!) ++
    (Array.range 8).map (fun i => s[i + 8]! ^^^ cv[i]!)

def word (a b c d : UInt8) : UInt32 :=
  a.toUInt32 ||| (b.toUInt32 <<< 8) ||| (c.toUInt32 <<< 16) ||| (d.toUInt32 <<< 24)

/-- Sixteen little-endian words of a block, zero padded to 64 bytes. -/
def words (b : Bytes) : Array UInt32 :=
  let p : Array UInt8 := (b ++ List.replicate (64 - b.length) 0).toArray
  (Array.range 16).map fun i => word p[4 * i]! p[4 * i + 1]! p[4 * i + 2]! p[4 * i + 3]!

def wordBytes (x : UInt32) : Bytes :=
  [x.toUInt8, (x >>> 8).toUInt8, (x >>> 16).toUInt8, (x >>> 24).toUInt8]

/-- A compression not yet run: what a chunk or parent hands to its parent or
to the root. -/
structure Output where
  cv : Array UInt32
  block : Array UInt32
  counter : Nat
  len : UInt32
  flags : UInt32

def Output.chain (o : Output) : Array UInt32 :=
  (compress o.cv o.block o.counter o.len o.flags).extract 0 8

/-- The first 32 bytes of the root output, little endian. -/
def Output.digest (o : Output) : Bytes :=
  let w := compress o.cv o.block 0 o.len (o.flags ||| rootFlag)
  (List.range 8).flatMap fun i => wordBytes w[i]!

/-- Pieces of at most `n` bytes; the empty string is one empty piece. -/
def pieces (n : Nat) (b : Bytes) : List Bytes :=
  if b.length ≤ n ∨ n = 0 then [b] else b.take n :: pieces n (b.drop n)
termination_by b.length
decreasing_by
  simp only [List.length_drop]
  omega

def chunkOutput (counter : Nat) (chunk : Bytes) : Output :=
  let blocks := pieces 64 chunk
  let n := blocks.length
  let rec go : Nat → Array UInt32 → List Bytes → Output
    | _, cv, [] => ⟨cv, words [], counter, 0, chunkStart ||| chunkEnd⟩
    | i, cv, [b] =>
      ⟨cv, words b, counter, b.length.toUInt32, (if i = 0 then chunkStart else 0) ||| chunkEnd⟩
    | i, cv, b :: bs =>
      go (i + 1) ((compress cv (words b) counter 64 (if i = 0 then chunkStart else 0)).extract 0 8) bs
  let _ := n
  go 0 iv blocks

def parentOutput (l r : Array UInt32) : Output := ⟨iv, l ++ r, 0, 64, parentFlag⟩

def leftCount (n : Nat) : Nat := Nat.pow 2 (Nat.log2 (n - 1))

theorem leftCount_pos (n : Nat) : 0 < leftCount n := Nat.two_pow_pos _

theorem leftCount_lt {n : Nat} (h : 2 ≤ n) : leftCount n < n := by
  have := Nat.log2_self_le (n := n - 1) (by omega)
  unfold leftCount
  rw [Nat.pow_eq]
  omega

/-- The output of the tree over `chunks`, the first of which has index `start`. -/
def treeOutput (start : Nat) (chunks : List Bytes) : Output :=
  if chunks.length ≤ 1 then chunkOutput start (chunks.headD [])
  else
    let k := leftCount chunks.length
    parentOutput (treeOutput start (chunks.take k)).chain
      (treeOutput (start + k) (chunks.drop k)).chain
termination_by chunks.length
decreasing_by
  · simp only [List.length_take]
    have := leftCount_lt (n := chunks.length) (by omega)
    omega
  · simp only [List.length_drop]
    have := leftCount_pos chunks.length
    omega

def digest (b : Bytes) : Bytes := (treeOutput 0 (pieces 1024 b)).digest

theorem length_digest (b : Bytes) : (digest b).length = 32 := by
  simp [digest, Output.digest, wordBytes, List.length_flatMap] <;> decide

end Issuance.Hash.Blake3
