import Mathlib
import Issuance.Text.Utf8
/-! # The bytes of a text read back

Texts are stored as UTF-8 and read through the lossy decoder; the bytes of a
text are well formed, so they read back as the text. -/
namespace Issuance.Bytes

theorem toList_loop (bs : ByteArray) (i : Nat) (r : List UInt8) :
    ByteArray.toList.loop bs i r = r.reverse ++ bs.data.toList.drop i := by
  fun_induction ByteArray.toList.loop bs i r with
  | case1 i r h ih =>
    rw [ih]
    have hi : i < bs.data.toList.length := by simpa using h
    rw [List.drop_eq_getElem_cons hi]
    simp only [ByteArray.get!, List.reverse_cons, List.append_assoc, List.cons_append, List.nil_append,
      Array.getElem_toList]
    rw [getElem!_pos bs.data i (by simpa using h)]
  | case2 i r h =>
    rw [List.drop_eq_nil_of_le (by simpa using h), List.append_nil]

theorem ofString_eq (s : String) : ofString s = s.toList.flatMap String.utf8EncodeChar := by
  have hs : s.toByteArray = s.toList.utf8Encode := String.utf8Encode_toList.symm
  simp only [ofString, String.toUTF8_eq_toByteArray, ByteArray.toList, toList_loop, List.reverse_nil,
    List.nil_append, List.drop_zero, hs, List.utf8Encode, List.toList_data_toByteArray]

theorem isTail_iff {y : UInt8} : isTail y = true ↔ 0x80 ≤ y.toNat ∧ y.toNat < 0xC0 := by
  simp only [isTail, Bool.and_eq_true, decide_eq_true_eq, UInt8.le_iff_toNat_le, UInt8.lt_iff_toNat_lt]
  rfl

theorem leading_one_byte {x : UInt8} (hx : x.toNat < 0x80) (rest : Bytes) :
    leading (x :: rest) = some (Char.ofNat x.toNat, 1) := by
  simp only [leading]
  rw [if_pos hx]

theorem leading_two_bytes {x y : UInt8} (hx : 0xC2 ≤ x.toNat ∧ x.toNat < 0xE0) (hy : isTail y = true)
    (rest : Bytes) : leading (x :: y :: rest) = some (Char.ofNat ((x.toNat - 0xC0) * 64 + (y.toNat - 0x80)), 2) := by
  simp only [leading]
  rw [if_neg (by omega), if_pos (by simp; omega)]
  simp [hy]

theorem leading_three_bytes {x y z : UInt8} (hx : 0xE0 ≤ x.toNat ∧ x.toNat < 0xF0) (hy : isTail y = true)
    (hz : isTail z = true) (hv : ¬ ((x.toNat - 0xE0) * 4096 + (y.toNat - 0x80) * 64 + (z.toNat - 0x80) < 0x800 ∨
      (0xD800 ≤ (x.toNat - 0xE0) * 4096 + (y.toNat - 0x80) * 64 + (z.toNat - 0x80) ∧
        (x.toNat - 0xE0) * 4096 + (y.toNat - 0x80) * 64 + (z.toNat - 0x80) < 0xE000))) (rest : Bytes) :
    leading (x :: y :: z :: rest) =
      some (Char.ofNat ((x.toNat - 0xE0) * 4096 + (y.toNat - 0x80) * 64 + (z.toNat - 0x80)), 3) := by
  simp only [leading]
  rw [if_neg (by omega), if_neg (by simp; omega), if_pos (by simp; omega)]
  simp only [List.take_succ_cons, List.take_zero, List.length_cons, List.length_nil, List.all_cons, List.all_nil,
    hy, hz, Bool.and_true, decide_true, if_true, List.map_cons, List.map_nil, Option.bind_some]
  rw [if_neg (by simpa using hv)]

theorem leading_four_bytes {x y z w : UInt8} (hx : 0xF0 ≤ x.toNat ∧ x.toNat < 0xF5) (hy : isTail y = true)
    (hz : isTail z = true) (hw : isTail w = true)
    (hv : ¬ ((x.toNat - 0xF0) * 262144 + (y.toNat - 0x80) * 4096 + (z.toNat - 0x80) * 64 + (w.toNat - 0x80) < 0x10000 ∨
      (x.toNat - 0xF0) * 262144 + (y.toNat - 0x80) * 4096 + (z.toNat - 0x80) * 64 + (w.toNat - 0x80) > 0x10FFFF))
    (rest : Bytes) :
    leading (x :: y :: z :: w :: rest) = some (Char.ofNat
      ((x.toNat - 0xF0) * 262144 + (y.toNat - 0x80) * 4096 + (z.toNat - 0x80) * 64 + (w.toNat - 0x80)), 4) := by
  simp only [leading]
  rw [if_neg (by omega), if_neg (by simp; omega), if_neg (by simp; omega), if_pos (by simp; omega)]
  simp only [List.take_succ_cons, List.take_zero, List.length_cons, List.length_nil, List.all_cons, List.all_nil,
    hy, hz, hw, Bool.and_true, decide_true, if_true, List.map_cons, List.map_nil, Option.bind_some]
  rw [if_neg (by simpa using hv)]

theorem byte_toNat {n : Nat} (h : n < 256) : (UInt8.ofNat n).toNat = n := UInt8.toNat_ofNat_of_lt' h

theorem isTail_byte {n : Nat} (h : 0x80 ≤ n ∧ n < 0xC0) : isTail (UInt8.ofNat n) = true :=
  isTail_iff.mpr (by rw [byte_toNat (by omega)]; exact h)

theorem leading_utf8EncodeChar (c : Char) (rest : Bytes) :
    leading (String.utf8EncodeChar c ++ rest) = some (c, (String.utf8EncodeChar c).length) := by
  have hc : c.val.toNat < 0xD800 ∨ (0xDFFF < c.val.toNat ∧ c.val.toNat < 0x110000) := c.valid
  have hn : Char.ofNat c.val.toNat = c := Char.ofNat_toNat c
  simp only [String.utf8EncodeChar]
  by_cases h1 : c.val.toNat ≤ 0x7f
  · rw [if_pos h1, List.singleton_append, leading_one_byte (by rw [byte_toNat (by omega)]; omega),
      byte_toNat (by omega)]
    rw [hn]
    rfl
  rw [if_neg h1]
  by_cases h2 : c.val.toNat ≤ 0x7ff
  · rw [if_pos h2, List.cons_append, List.cons_append, List.nil_append,
      leading_two_bytes (by rw [byte_toNat (by omega)]; omega) (isTail_byte (by omega)),
      byte_toNat (by omega), byte_toNat (by omega)]
    have hv : (c.val.toNat / 64 % 32 + 0xC0 - 0xC0) * 64 + (c.val.toNat % 64 + 0x80 - 0x80) = c.val.toNat := by omega
    rw [hv, hn]
    rfl
  rw [if_neg h2]
  by_cases h3 : c.val.toNat ≤ 0xffff
  · rw [if_pos h3, List.cons_append, List.cons_append, List.cons_append, List.nil_append,
      leading_three_bytes (by rw [byte_toNat (by omega)]; omega) (isTail_byte (by omega)) (isTail_byte (by omega))
        (by rw [byte_toNat (by omega), byte_toNat (by omega), byte_toNat (by omega)]; omega),
      byte_toNat (by omega), byte_toNat (by omega), byte_toNat (by omega)]
    have hv : (c.val.toNat / 4096 % 16 + 0xE0 - 0xE0) * 4096 + (c.val.toNat / 64 % 64 + 0x80 - 0x80) * 64 +
        (c.val.toNat % 64 + 0x80 - 0x80) = c.val.toNat := by omega
    rw [hv, hn]
    rfl
  rw [if_neg h3, List.cons_append, List.cons_append, List.cons_append, List.cons_append, List.nil_append,
    leading_four_bytes (by rw [byte_toNat (by omega)]; omega) (isTail_byte (by omega)) (isTail_byte (by omega))
      (isTail_byte (by omega))
      (by rw [byte_toNat (by omega), byte_toNat (by omega), byte_toNat (by omega), byte_toNat (by omega)]; omega),
    byte_toNat (by omega), byte_toNat (by omega), byte_toNat (by omega), byte_toNat (by omega)]
  have hv : (c.val.toNat / 262144 % 8 + 0xF0 - 0xF0) * 262144 + (c.val.toNat / 4096 % 64 + 0x80 - 0x80) * 4096 +
      (c.val.toNat / 64 % 64 + 0x80 - 0x80) * 64 + (c.val.toNat % 64 + 0x80 - 0x80) = c.val.toNat := by omega
  rw [hv, hn]
  rfl

theorem chars_utf8EncodeChar_append (c : Char) (rest : Bytes) :
    chars (String.utf8EncodeChar c ++ rest) = c :: chars rest := by
  obtain ⟨x, xs, hx⟩ := List.exists_cons_of_ne_nil (String.utf8EncodeChar_ne_nil (c := c))
  have hl := leading_utf8EncodeChar c rest
  rw [hx, List.cons_append] at hl ⊢
  rw [chars, hl]
  simp only [List.cons.injEq, true_and]
  rw [Nat.max_eq_left (by simp), ← List.cons_append, List.drop_left]

@[simp] theorem toTextLossy_ofString (s : String) : toTextLossy (ofString s) = s := by
  have hs : chars (ofString s) = s.toList := by
    rw [ofString_eq]
    induction s.toList with
    | nil => simp [chars]
    | cons c cs ih => rw [List.flatMap_cons, chars_utf8EncodeChar_append, ih]
  rw [toTextLossy, hs, String.ofList_toList]

theorem ofString_injective : Function.Injective ofString := fun s t h => by
  rw [← toTextLossy_ofString s, h, toTextLossy_ofString]

end Issuance.Bytes
