import Issuance.Text.Hex
/-! # Base64 text

Three bytes make four characters, standard (`+`, `/`) or URL (`-`, `_`)
alphabet, padded with `=` or not. Reading skips line breaks and refuses the
first bad byte, naming its offset. -/
namespace Issuance.Text.Base64

structure Form where
  letters : List Char
  padded : Bool

def standard : Form :=
  ⟨"ABCDEFGHIJKLMNOPQRSTUVWXYZabcdefghijklmnopqrstuvwxyz0123456789+/".toList, true⟩

def urlRaw : Form :=
  ⟨"ABCDEFGHIJKLMNOPQRSTUVWXYZabcdefghijklmnopqrstuvwxyz0123456789-_".toList, false⟩

def Form.letter (f : Form) (v : Nat) : Char := f.letters.getD v 'A'

def Form.value (f : Form) (b : UInt8) : Option Nat := f.letters.idxOf? (Char.ofNat b.toNat)

/-- The letters of one group of up to three bytes, padded when the form pads. -/
def Form.group (f : Form) (bs : Bytes) : List Char :=
  let n := bs.foldl (fun acc b => acc * 256 + b.toNat) 0 * Nat.pow 256 (3 - bs.length)
  let letters := [n / 262144 % 64, n / 4096 % 64, n / 64 % 64, n % 64].map f.letter
  let kept := letters.take (bs.length + 1)
  if f.padded then kept ++ List.replicate (3 - bs.length) '=' else kept

def Form.encode (f : Form) (b : Bytes) : String :=
  String.ofList (go b.length b)
where
  go : Nat → Bytes → List Char
    | 0, _ => []
    | _, [] => []
    | n + 1, bs => f.group (bs.take 3) ++ go n (bs.drop 3)

def isBreak (b : UInt8) : Bool := b = 10 || b = 13

def unpack (vs : List Nat) : Bytes :=
  let n := (vs ++ List.replicate (4 - vs.length) 0).foldl (fun acc v => acc * 64 + v) 0
  ([n / 65536 % 256, n / 256 % 256, n % 256].take (vs.length - 1)).map Nat.toUInt8

/-- The line breaks at the front of some bytes skipped, with the offset moved past them. -/
def skipBreaks (rest : Bytes) (pos : Nat) : Bytes × Nat :=
  (rest.dropWhile isBreak, pos + (rest.takeWhile isBreak).length)

/-- How one group ends: with bytes and more text to read, with the last
bytes, or at a byte that breaks the rules. -/
inductive Group where
  | more (bytes : Bytes) (rest : Bytes) (pos : Nat)
  | last (bytes : Bytes)
  | bad (offset : Nat)

/-- Read one group: `vs` holds the values read so far, `pos` is the offset
of the next byte of `rest`, and `total` the length of the whole text. -/
def Form.groupAt (f : Form) (total : Nat) (vs : List Nat) : Bytes → Nat → Group
  | [], pos =>
    if vs.isEmpty then .last []
    else if vs.length = 1 || f.padded then .bad (pos - vs.length)
    else .last (unpack vs)
  | b :: rest, pos =>
    match f.value b with
    | some v =>
      if vs.length = 3 then .more (unpack (vs ++ [v])) rest (pos + 1)
      else f.groupAt total (vs ++ [v]) rest (pos + 1)
    | none =>
      if isBreak b then f.groupAt total vs rest (pos + 1)
      else if b ≠ 61 || !f.padded || vs.length < 2 then .bad pos
      else
        let closed : Except Nat (Bytes × Nat) :=
          if vs.length = 2 then
            match skipBreaks rest (pos + 1) with
            | ([], _) => .error total
            | (c :: more, pos2) => if c = 61 then .ok (more, pos2 + 1) else .error (pos2 - 1)
          else .ok (rest, pos + 1)
        match closed with
        | .error o => .bad o
        | .ok (more, pos2) =>
          match skipBreaks more pos2 with
          | ([], _) => .last (unpack vs)
          | (_ :: _, pos3) => .bad pos3

/-- The bytes of text in the form, or the offset of the first byte that
breaks its rules. -/
def Form.decode (f : Form) (text : String) : Except Nat Bytes :=
  let src := Bytes.ofString text
  go src.length src.length src 0 []
where
  go (total : Nat) : Nat → Bytes → Nat → Bytes → Except Nat Bytes
    | 0, _, _, acc => .ok acc
    | _, [], _, acc => .ok acc
    | n + 1, rest, pos, acc =>
      match f.groupAt total [] rest pos with
      | .more bs rest' pos2 => go total n rest' pos2 (acc ++ bs)
      | .last bs => .ok (acc ++ bs)
      | .bad o => .error o

def corrupt (offset : Nat) : String := "illegal base64 data at input byte " ++ toString offset

end Issuance.Text.Base64
