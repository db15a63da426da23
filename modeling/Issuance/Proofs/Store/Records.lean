import Mathlib
import Issuance.Proofs.Store.Run
import Issuance.Proofs.Store.RlpCodec
/-! # Records under keys

`recordAt shape of L k`: nothing where `k` holds no bytes or undecodable
ones, else the decoded value taken apart by `of`. A read returns it; a
write of a value fitting its shape becomes the record there. -/
namespace Issuance.Store

open Rlp

/-- The record under `k` in the view `L`. -/
def recordAt {α : Type} (shape : Shape) (of : Value → α) (L : Bytes → Option Bytes) (k : Bytes) : Option α :=
  ((L k).filter fun b => !b.isEmpty).bind fun b => (decode shape b).toOption.map of

section
variable {α : Type} {shape : Shape} {of : Value → α}

theorem Txn.Returns.read_record {k : Bytes} {r : Option Value} {tx tx' : Tx}
    (h : Txn.Returns (Txn.read shape k) tx r tx') (of : Value → α) :
    tx' = tx ∧ r.map of = recordAt shape of tx.lookup k := by
  obtain ⟨h1, hn, hs⟩ := h.read
  refine ⟨h1, ?_⟩
  change _ = (Txn.found tx k).bind _
  cases hf : Txn.found tx k with
  | none => simp [hn hf]
  | some b =>
    obtain ⟨v, hd, rfl⟩ := hs b hf
    simp [hd, Except.toOption]

theorem recordAt_restaged_of_ne {tx : Tx} {k k' : Bytes} (h : k' ≠ k) (v : Option Bytes) :
    recordAt shape of (tx.restaged k v).lookup k' = recordAt shape of tx.lookup k' := by
  simp [recordAt, h]

theorem recordAt_of_stages {P : Bytes → Prop} {tx tx' : Tx} {k : Bytes} (h : tx.Stages P tx') (hk : ¬ P k) :
    recordAt shape of tx'.lookup k = recordAt shape of tx.lookup k := by
  rw [recordAt, recordAt, h.lookup hk]

theorem recordAt_restaged_encode {tx : Tx} {k : Bytes} {v : Value} (hv : Fits shape v) :
    recordAt shape of (tx.restaged k (some (encode v))).lookup k = some (of v) := by
  have hne : (!(encode v).isEmpty) = true := by
    simpa using List.ne_nil_of_length_pos (length_encode_pos v)
  rw [recordAt, Tx.lookup_restaged, if_pos rfl, Option.filter_some, if_pos hne, Option.bind_some,
    decode_encode hv]
  rfl

@[simp] theorem Tx.lookup_start (db : Database) : ({ db := db } : Tx).lookup = db.store.get? := by
  funext k
  rfl

end

/-! ## Sizes of encodings -/

namespace Rlp

theorem length_header_le (off n : Nat) (h : n < 2 ^ 64) : (header off n).length ≤ 9 := by
  unfold header
  split
  · simp
  · have : (Bytes.ofNat n).length ≤ 8 := Bytes.length_ofNat_le (by norm_num at h ⊢; omega)
    simp only [List.length_cons]
    omega

theorem length_header_small (off : Nat) {n : Nat} (h : n < 56) : (header off n).length = 1 := by
  simp [header, h]

theorem length_encodeBytes_le {b : Bytes} (h : b.length < 2 ^ 64) : (encodeBytes b).length ≤ b.length + 9 := by
  rcases encodeBytes_cases b with ⟨x, rfl, -, he⟩ | ⟨-, he⟩
  · rw [he]
    simp
  · rw [he, List.length_append]
    have := length_header_le 128 b.length h
    omega

theorem length_encode_num_le {n : Nat} (h : n < 2 ^ 64) : (encode (.num n)).length ≤ 9 := by
  have hw : (Bytes.ofNat n).length ≤ 8 := Bytes.length_ofNat_le (by norm_num at h ⊢; omega)
  simp only [encode]
  rcases encodeBytes_cases (Bytes.ofNat n) with ⟨x, -, -, he⟩ | ⟨-, he⟩
  · simp [he]
  · rw [he, List.length_append, length_header_small 128 (by omega)]
    omega

theorem length_encode_bytes_le {b : Bytes} (h : b.length < 2 ^ 64) : (encode (.bytes b)).length ≤ b.length + 9 :=
  length_encodeBytes_le h

theorem length_encode_flag (b : Bool) : (encode (.flag b)).length = 1 := by
  cases b <;> rfl

theorem length_encodeAll (vs : List Value) : (encodeAll vs).length = (vs.map fun v => (encode v).length).sum := by
  induction vs with
  | nil => simp [encodeAll]
  | cons v vs ih => simp [encodeAll_cons, ih]

theorem length_encode_items_le {vs : List Value} (h : (encodeAll vs).length < 2 ^ 64) :
    (encode (.items vs)).length ≤ (encodeAll vs).length + 9 := by
  rw [encode_items, List.length_append]
  have := length_header_le 192 _ h
  omega

/-! ## Fitting a shape -/

theorem fits_uint {bits n : Nat} (hb : bits / 8 ≤ 8) (h : n < 256 ^ (bits / 8)) : Fits (.uint bits) (.num n) :=
  .uint (Bytes.length_ofNat_le h) hb

theorem fits_uint64 {n : Nat} (h : n < 2 ^ 64) : Fits (.uint 64) (.num n) :=
  fits_uint (by norm_num) (by norm_num at h ⊢; omega)

theorem fits_uint16 {n : Nat} (h : n < 2 ^ 16) : Fits (.uint 16) (.num n) :=
  fits_uint (by norm_num) (by norm_num at h ⊢; omega)

theorem fits_text {b : Bytes} (name : String) (h : b.length < 2 ^ 64) : Fits (.text name) (.bytes b) :=
  .text (Bytes.length_ofNat_le (by norm_num at h ⊢; omega))

theorem fits_record {name : String} {fields : List (String × Shape)} {vs : List Value}
    (hl : fields.length = vs.length) (hf : ∀ p ∈ fields.zip vs, Fits p.1.2 p.2) (hp : (encodeAll vs).length < 2 ^ 64) :
    Fits (.record name fields) (.items vs) :=
  .record hl hf (Bytes.length_ofNat_le (by norm_num at hp ⊢; omega))

theorem fits_seq {elem : Shape} {name : String} {vs : List Value}
    (hf : ∀ v ∈ vs, Fits elem v) (hp : (encodeAll vs).length < 2 ^ 64) : Fits (.seq elem name) (.items vs) :=
  .seq hf (Bytes.length_ofNat_le (by norm_num at hp ⊢; omega))

end Rlp

end Issuance.Store
