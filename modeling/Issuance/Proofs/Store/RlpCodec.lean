import Mathlib
import Issuance.Store.Rlp
/-! # The record codec reads back what it writes

The reader follows the shape and the byte counts of the lists it is in and
refuses a header that is not shortest. `decode_encode`: a value that `Fits`
its shape decodes to itself, proved anywhere in a stream by induction. -/
namespace Issuance.Bytes

theorem foldl_toNat (xs : Bytes) (a : Nat) :
    xs.foldl (fun acc x => acc * 256 + x.toNat) a = a * 256 ^ xs.length + toNat xs := by
  induction xs generalizing a with
  | nil => simp [toNat]
  | cons x xs ih =>
    simp only [List.foldl_cons, toNat] at ih ⊢
    rw [ih, ih (0 * 256 + x.toNat)]
    simp only [List.length_cons, pow_succ]
    ring

theorem toNat_cons (x : UInt8) (xs : Bytes) : toNat (x :: xs) = x.toNat * 256 ^ xs.length + toNat xs := by
  simp only [toNat, List.foldl_cons]
  rw [foldl_toNat]
  simp [toNat]

theorem ofNatWidth_succ (w n : Nat) : ofNatWidth (w + 1) n = (n / 256 ^ w % 256).toUInt8 :: ofNatWidth w n := by
  simp [ofNatWidth, List.range_succ, Nat.pow_eq]

@[simp] theorem length_ofNatWidth (w n : Nat) : (ofNatWidth w n).length = w := by
  simp [ofNatWidth]

theorem toNat_ofNatWidth (w n : Nat) : toNat (ofNatWidth w n) = n % 256 ^ w := by
  induction w with
  | zero => simp [ofNatWidth, toNat, Nat.mod_one]
  | succ w ih =>
    rw [ofNatWidth_succ, toNat_cons, ih, length_ofNatWidth]
    have h : (n / 256 ^ w % 256).toUInt8.toNat = n / 256 ^ w % 256 := by
      simp [Nat.toUInt8, UInt8.toNat_ofNat', Nat.mod_mod_of_dvd]
    rw [h, pow_succ, Nat.mod_mul]
    ring

theorem lt_pow_width {n : Nat} : n < 256 ^ (Nat.log2 n / 8 + 1) := by
  have h1 : n < 2 ^ (Nat.log2 n + 1) := Nat.lt_log2_self
  have h2 : (2 : Nat) ^ (Nat.log2 n + 1) ≤ 2 ^ (8 * (Nat.log2 n / 8 + 1)) := Nat.pow_le_pow_right (by norm_num) (by omega)
  have h3 : (256 : Nat) ^ (Nat.log2 n / 8 + 1) = 2 ^ (8 * (Nat.log2 n / 8 + 1)) := by rw [pow_mul]; norm_num
  omega

theorem pow_width_le {n : Nat} (hn : n ≠ 0) : 256 ^ (Nat.log2 n / 8) ≤ n := by
  have h1 : 2 ^ Nat.log2 n ≤ n := Nat.log2_self_le hn
  have h2 : (2 : Nat) ^ (8 * (Nat.log2 n / 8)) ≤ 2 ^ Nat.log2 n := Nat.pow_le_pow_right (by norm_num) (by omega)
  have h3 : (256 : Nat) ^ (Nat.log2 n / 8) = 2 ^ (8 * (Nat.log2 n / 8)) := by rw [pow_mul]; norm_num
  omega

@[simp] theorem toNat_ofNat (n : Nat) : toNat (ofNat n) = n := by
  unfold ofNat
  split
  · rename_i h; subst h; rfl
  · rw [toNat_ofNatWidth, Nat.mod_eq_of_lt lt_pow_width]

theorem ofNat_of_ne_zero {n : Nat} (hn : n ≠ 0) : ofNat n = ofNatWidth (Nat.log2 n / 8 + 1) n := by
  simp [ofNat, hn]

theorem length_ofNat_le {n k : Nat} (h : n < 256 ^ k) : (ofNat n).length ≤ k := by
  by_cases hn : n = 0
  · simp [ofNat, hn]
  · rw [ofNat_of_ne_zero hn, length_ofNatWidth]
    by_contra hk
    have h1 : (256 : Nat) ^ k ≤ 256 ^ (Nat.log2 n / 8) := Nat.pow_le_pow_right (by norm_num) (by omega)
    have h2 := pow_width_le hn
    omega

theorem head?_ofNat (n : Nat) : (ofNat n).head? ≠ some 0 := by
  by_cases hn : n = 0
  · simp [ofNat, hn]
  · rw [ofNat_of_ne_zero hn, ofNatWidth_succ]
    simp only [List.head?_cons, ne_eq, Option.some.injEq]
    have h1 := pow_width_le hn
    have h2 : n < 256 ^ (Nat.log2 n / 8) * 256 := by rw [← pow_succ]; exact lt_pow_width
    have hpos : 0 < 256 ^ (Nat.log2 n / 8) := by positivity
    have h3 : 1 ≤ n / 256 ^ (Nat.log2 n / 8) := (Nat.one_le_div_iff hpos).mpr h1
    have h4 : n / 256 ^ (Nat.log2 n / 8) < 256 := (Nat.div_lt_iff_lt_mul hpos).mpr (by linarith)
    intro h
    have h5 := congrArg UInt8.toNat h
    simp [Nat.toUInt8, UInt8.toNat_ofNat'] at h5
    omega

theorem ofNat_of_lt_256 {n : Nat} (h0 : n ≠ 0) (h : n < 256) : ofNat n = [n.toUInt8] := by
  have hl : Nat.log2 n < 8 := (Nat.log2_lt h0).mpr h
  rw [ofNat_of_ne_zero h0, show Nat.log2 n / 8 + 1 = 1 by omega, ofNatWidth_succ]
  simp [ofNatWidth, Nat.mod_eq_of_lt h]

end Issuance.Bytes
namespace Issuance.Store.Rlp

/-- The counts of the lists being read, once `n` more bytes of the innermost
one have been read. -/
def spent (n : Nat) : List Nat → List Nat
  | [] => []
  | l :: ls => (l - n) :: ls

/-- The innermost list being read has at least `n` bytes left. -/
def Room (n : Nat) : List Nat → Prop
  | [] => True
  | l :: _ => n ≤ l

@[simp] theorem spent_spent (a b : Nat) (ls : List Nat) : spent a (spent b ls) = spent (b + a) ls := by
  cases ls <;> simp [spent, Nat.sub_sub]

theorem Room.spent {a b : Nat} {ls : List Nat} (h : Room (b + a) ls) : Room a (spent b ls) := by
  cases ls <;> simp_all [Room, Rlp.spent] ; omega

theorem Room.mono {a b : Nat} {ls : List Nat} (h : Room b ls) (hab : a ≤ b) : Room a ls := by
  cases ls <;> simp_all [Room]; omega

namespace Stream

theorem take_append {b rest : Bytes} {lists : List Nat} (h : Room b.length lists) :
    take b.length ⟨b ++ rest, lists⟩ = .ok (b, ⟨rest, spent b.length lists⟩) := by
  cases lists with
  | nil =>
    simp [take, spent]
    rfl
  | cons l ls =>
    simp only [Room] at h
    simp [take, spent, Nat.not_lt.mpr h]
    rfl

end Stream

namespace Stream

theorem kind_of_header {s s' : Stream} {k : Kind} (hh : s.header = .ok (k, s'))
    (h0 : s.lists.head? ≠ some 0) (hl : ∀ l, s.lists.head? = some l → k.size ≤ l)
    (hi : k.size ≤ s'.input.length) : s.kind = .ok (k, s') := by
  unfold kind
  simp only [h0, if_false, hh, Bind.bind, Except.bind]
  cases hs : s.lists.head? with
  | none => simp [Nat.not_lt.mpr hi]; rfl
  | some l => simp [Nat.not_lt.mpr (hl l hs), Nat.not_lt.mpr hi]; rfl

theorem header_byte {x : UInt8} {rest : Bytes} {lists : List Nat} (hx : x < 0x80) (h : Room 1 lists) :
    header ⟨x :: rest, lists⟩ = .ok (.byte x, ⟨rest, spent 1 lists⟩) := by
  have ht : take 1 ⟨x :: rest, lists⟩ = .ok ([x], ⟨rest, spent 1 lists⟩) := take_append (b := [x]) h
  simp [header, ht, hx]
  rfl

theorem toNat_toUInt8 {n : Nat} (h : n < 256) : n.toUInt8.toNat = n := by
  simp [Nat.toUInt8, UInt8.toNat_ofNat', Nat.mod_eq_of_lt h]

theorem sizeField_ofNat {n : Nat} {rest : Bytes} {lists : List Nat} (h : Room (Bytes.ofNat n).length lists) :
    sizeField (Bytes.ofNat n).length ⟨Bytes.ofNat n ++ rest, lists⟩ =
      .ok (n, ⟨rest, spent (Bytes.ofNat n).length lists⟩) := by
  have hz := Bytes.head?_ofNat n
  simp [sizeField, take_append h, Bind.bind, Except.bind, hz]
  rfl

theorem header_str {n : Nat} {rest : Bytes} {lists : List Nat} (hn : (Bytes.ofNat n).length ≤ 8)
    (h : Room (Rlp.header 128 n).length lists) :
    header ⟨Rlp.header 128 n ++ rest, lists⟩ = .ok (.str n, ⟨rest, spent (Rlp.header 128 n).length lists⟩) := by
  unfold Rlp.header at h ⊢
  split
  · rename_i hs
    simp only [hs, if_true, List.length_singleton] at h
    have ht : take 1 ⟨(128 + n).toUInt8 :: rest, lists⟩ = .ok ([(128 + n).toUInt8], ⟨rest, spent 1 lists⟩) :=
      take_append (b := [_]) h
    have hx := toNat_toUInt8 (n := 128 + n) (by omega)
    rw [List.singleton_append]
    have c1 : ¬ ((128 + n).toUInt8 < 128) := by rw [UInt8.lt_iff_toNat_lt, hx]; simp
    have c2 : (128 + n).toUInt8 < 184 := by rw [UInt8.lt_iff_toNat_lt, hx]; simp; omega
    simp only [header, ht, pure_bind]
    rw [if_neg c1, if_pos c2, hx, Nat.add_sub_cancel_left, List.length_singleton]
    rfl
  · rename_i hs
    have hn0 : n ≠ 0 := by omega
    have hL : 1 ≤ (Bytes.ofNat n).length := by
      rw [Bytes.ofNat_of_ne_zero hn0, Bytes.length_ofNatWidth]; omega
    simp only [hs, if_false, List.length_cons] at h
    have h1 : Room 1 lists := h.mono (by omega)
    have ht : take 1 ⟨(128 + 55 + (Bytes.ofNat n).length).toUInt8 :: (Bytes.ofNat n ++ rest), lists⟩ =
        .ok ([(128 + 55 + (Bytes.ofNat n).length).toUInt8], ⟨Bytes.ofNat n ++ rest, spent 1 lists⟩) :=
      take_append (b := [_]) h1
    have hx := toNat_toUInt8 (n := 128 + 55 + (Bytes.ofNat n).length) (by omega)
    have c1 : ¬ ((128 + 55 + (Bytes.ofNat n).length).toUInt8 < 128) := by
      rw [UInt8.lt_iff_toNat_lt, hx]; simp; omega
    have c2 : ¬ ((128 + 55 + (Bytes.ofNat n).length).toUInt8 < 184) := by
      rw [UInt8.lt_iff_toNat_lt, hx]; simp; omega
    have c3 : (128 + 55 + (Bytes.ofNat n).length).toUInt8 < 192 := by rw [UInt8.lt_iff_toNat_lt, hx]; simp; omega
    have hsz : sizeField (Bytes.ofNat n).length ⟨Bytes.ofNat n ++ rest, spent 1 lists⟩ =
        .ok (n, ⟨rest, spent (Bytes.ofNat n).length (spent 1 lists)⟩) :=
      sizeField_ofNat (Room.spent (by rwa [Nat.add_comm]))
    rw [List.cons_append]
    simp only [header, ht, pure_bind]
    rw [if_neg c1, if_neg c2, if_pos c3, hx, show 128 + 55 + (Bytes.ofNat n).length - 183 = (Bytes.ofNat n).length by omega,
      hsz]
    simp only [Bind.bind, Except.bind, if_neg (Nat.not_lt.mpr (by omega : 56 ≤ n)), spent_spent, Nat.add_comm 1,
      List.length_cons]
    rfl

theorem header_list {n : Nat} {rest : Bytes} {lists : List Nat} (hn : (Bytes.ofNat n).length ≤ 8)
    (h : Room (Rlp.header 192 n).length lists) :
    header ⟨Rlp.header 192 n ++ rest, lists⟩ = .ok (.list n, ⟨rest, spent (Rlp.header 192 n).length lists⟩) := by
  unfold Rlp.header at h ⊢
  split
  · rename_i hs
    simp only [hs, if_true, List.length_singleton] at h
    have ht : take 1 ⟨(192 + n).toUInt8 :: rest, lists⟩ = .ok ([(192 + n).toUInt8], ⟨rest, spent 1 lists⟩) :=
      take_append (b := [_]) h
    have hx := toNat_toUInt8 (n := 192 + n) (by omega)
    rw [List.singleton_append]
    have c1 : ¬ ((192 + n).toUInt8 < 128) := by rw [UInt8.lt_iff_toNat_lt, hx]; simp; omega
    have c2 : ¬ ((192 + n).toUInt8 < 184) := by rw [UInt8.lt_iff_toNat_lt, hx]; simp; omega
    have c3 : ¬ ((192 + n).toUInt8 < 192) := by rw [UInt8.lt_iff_toNat_lt, hx]; simp
    have c4 : (192 + n).toUInt8 < 248 := by rw [UInt8.lt_iff_toNat_lt, hx]; simp; omega
    simp only [header, ht, pure_bind]
    rw [if_neg c1, if_neg c2, if_neg c3, if_pos c4, hx, Nat.add_sub_cancel_left, List.length_singleton]
    rfl
  · rename_i hs
    have hn0 : n ≠ 0 := by omega
    have hL : 1 ≤ (Bytes.ofNat n).length := by
      rw [Bytes.ofNat_of_ne_zero hn0, Bytes.length_ofNatWidth]; omega
    simp only [hs, if_false, List.length_cons] at h
    have h1 : Room 1 lists := h.mono (by omega)
    have ht : take 1 ⟨(192 + 55 + (Bytes.ofNat n).length).toUInt8 :: (Bytes.ofNat n ++ rest), lists⟩ =
        .ok ([(192 + 55 + (Bytes.ofNat n).length).toUInt8], ⟨Bytes.ofNat n ++ rest, spent 1 lists⟩) :=
      take_append (b := [_]) h1
    have hx := toNat_toUInt8 (n := 192 + 55 + (Bytes.ofNat n).length) (by omega)
    have c1 : ¬ ((192 + 55 + (Bytes.ofNat n).length).toUInt8 < 128) := by
      rw [UInt8.lt_iff_toNat_lt, hx]; simp; omega
    have c2 : ¬ ((192 + 55 + (Bytes.ofNat n).length).toUInt8 < 184) := by
      rw [UInt8.lt_iff_toNat_lt, hx]; simp; omega
    have c3 : ¬ ((192 + 55 + (Bytes.ofNat n).length).toUInt8 < 192) := by
      rw [UInt8.lt_iff_toNat_lt, hx]; simp; omega
    have c4 : ¬ ((192 + 55 + (Bytes.ofNat n).length).toUInt8 < 248) := by
      rw [UInt8.lt_iff_toNat_lt, hx]; simp; omega
    have hsz : sizeField (Bytes.ofNat n).length ⟨Bytes.ofNat n ++ rest, spent 1 lists⟩ =
        .ok (n, ⟨rest, spent (Bytes.ofNat n).length (spent 1 lists)⟩) :=
      sizeField_ofNat (Room.spent (by rwa [Nat.add_comm]))
    rw [List.cons_append]
    simp only [header, ht, pure_bind]
    rw [if_neg c1, if_neg c2, if_neg c3, if_neg c4, hx,
      show 192 + 55 + (Bytes.ofNat n).length - 247 = (Bytes.ofNat n).length by omega, hsz]
    simp only [Bind.bind, Except.bind, if_neg (Nat.not_lt.mpr (by omega : 56 ≤ n)), spent_spent, Nat.add_comm 1,
      List.length_cons]
    rfl

end Stream

theorem length_header_pos (off n : Nat) : 0 < (header off n).length := by
  unfold header; split <;> simp

theorem encodeBytes_cases (b : Bytes) :
    (∃ x, b = [x] ∧ x < 128 ∧ encodeBytes b = [x]) ∨
      ((∀ x, b = [x] → ¬ x < 128) ∧ encodeBytes b = header 128 b.length ++ b) := by
  unfold encodeBytes
  split
  · rename_i x
    split
    · exact .inl ⟨x, rfl, ‹_›, rfl⟩
    · exact .inr ⟨fun y hy => by cases hy; assumption, rfl⟩
  · rename_i hb
    exact .inr ⟨fun y hy => absurd hy (hb y), rfl⟩

namespace Stream

theorem kind_byte {x : UInt8} {rest : Bytes} {lists : List Nat} (hx : x < 0x80) (h : Room 1 lists) :
    kind ⟨x :: rest, lists⟩ = .ok (.byte x, ⟨rest, spent 1 lists⟩) := by
  refine kind_of_header (header_byte hx h) ?_ ?_ ?_
  · cases lists <;> simp_all [Room]; omega
  · intro l _; exact Nat.zero_le _
  · exact Nat.zero_le _

theorem kind_str {p rest : Bytes} {lists : List Nat} (hp : (Bytes.ofNat p.length).length ≤ 8)
    (h : Room ((Rlp.header 128 p.length).length + p.length) lists) :
    kind ⟨Rlp.header 128 p.length ++ (p ++ rest), lists⟩ =
      .ok (.str p.length, ⟨p ++ rest, spent (Rlp.header 128 p.length).length lists⟩) := by
  have hpos := length_header_pos 128 p.length
  refine kind_of_header (header_str hp (h.mono (by omega))) ?_ ?_ ?_
  · cases lists <;> simp_all [Room]; omega
  · intro l hl
    cases lists <;> simp_all [Room, Kind.size]; omega
  · simp [Kind.size]

theorem kind_list {p rest : Bytes} {lists : List Nat} (hp : (Bytes.ofNat p.length).length ≤ 8)
    (h : Room ((Rlp.header 192 p.length).length + p.length) lists) :
    kind ⟨Rlp.header 192 p.length ++ (p ++ rest), lists⟩ =
      .ok (.list p.length, ⟨p ++ rest, spent (Rlp.header 192 p.length).length lists⟩) := by
  have hpos := length_header_pos 192 p.length
  refine kind_of_header (header_list hp (h.mono (by omega))) ?_ ?_ ?_
  · cases lists <;> simp_all [Room]; omega
  · intro l hl
    cases lists <;> simp_all [Room, Kind.size]; omega
  · simp [Kind.size]

theorem bytes_encodeBytes {b rest : Bytes} {lists : List Nat} (hb : (Bytes.ofNat b.length).length ≤ 8)
    (h : Room (encodeBytes b).length lists) :
    bytes ⟨encodeBytes b ++ rest, lists⟩ = .ok (b, ⟨rest, spent (encodeBytes b).length lists⟩) := by
  rcases encodeBytes_cases b with ⟨x, rfl, hx, he⟩ | ⟨hs, he⟩
  · rw [he] at h ⊢
    simp [bytes, kind_byte hx h, Bind.bind, Except.bind]
    rfl
  · rw [he] at h ⊢
    rw [List.length_append] at h
    rw [List.append_assoc]
    simp only [bytes, kind_str hb h, Bind.bind, Except.bind]
    rw [take_append (h.spent)]
    have hc : ¬ (b.length = 1 ∧ b.head?.getD 0 < 128) := by
      rintro ⟨h1, h2⟩
      obtain ⟨x, rfl⟩ := List.length_eq_one_iff.mp h1
      exact hs x rfl (by simpa using h2)
    simp only [spent_spent, List.length_append]
    rw [if_neg (by simpa using hc)]
    rfl

theorem ofNat_length_small {L : Nat} (h : L ≤ 8) : (Bytes.ofNat L).length ≤ 8 :=
  (Bytes.length_ofNat_le (k := 8) (by
    have : (256 : Nat) ^ 8 = 18446744073709551616 := by norm_num
    omega)).trans le_rfl

theorem uint_num {n bits : Nat} {rest : Bytes} {lists : List Nat} (hn : (Bytes.ofNat n).length ≤ bits / 8)
    (hb : bits / 8 ≤ 8) (h : Room (encode (.num n)).length lists) :
    uint bits ⟨encode (.num n) ++ rest, lists⟩ = .ok (n, ⟨rest, spent (encode (.num n)).length lists⟩) := by
  simp only [encode] at h ⊢
  rcases encodeBytes_cases (Bytes.ofNat n) with ⟨x, hx, hx128, he⟩ | ⟨hs, he⟩
  · rw [he] at h ⊢
    have hxn : x.toNat = n := by
      have := Bytes.toNat_ofNat n
      rw [hx] at this
      simpa [Bytes.toNat] using this
    have hx0 : ¬ x = 0 := by
      rintro rfl
      have : n = 0 := by simpa using hxn.symm
      subst this
      simp [Bytes.ofNat] at hx
    simp [uint, kind_byte hx128 h, Bind.bind, Except.bind, hx0, hxn]
    rfl
  · rw [he] at h ⊢
    rw [List.length_append] at h
    rw [List.append_assoc]
    simp only [uint, kind_str (ofNat_length_small (by omega)) h, Bind.bind, Except.bind]
    rw [if_neg (by omega), take_append h.spent]
    have hz := Bytes.head?_ofNat n
    have hsmall : ¬ (0 < (Bytes.ofNat n).length ∧ n < 128) := by
      rintro ⟨h1, h2⟩
      have hn0 : n ≠ 0 := by rintro rfl; simp [Bytes.ofNat] at h1
      exact hs n.toUInt8 (Bytes.ofNat_of_lt_256 hn0 (by omega)) (by
        rw [UInt8.lt_iff_toNat_lt, toNat_toUInt8 (by omega)]; simpa using h2)
    simp only [hz, Bytes.toNat_ofNat, spent_spent, List.length_append, decide_false, Bool.and_false]
    rw [if_neg (by simp), if_neg (by simpa using hsmall)]
    rfl

end Stream

/-- A reader gets back what was written: numbers within their widths,
fixed fields of their lengths, lengths fitting a header. -/
inductive Fits : Shape → Value → Prop
  | uint {bits n : Nat} : (Bytes.ofNat n).length ≤ bits / 8 → bits / 8 ≤ 8 → Fits (.uint bits) (.num n)
  | bool (b : Bool) : Fits .bool (.flag b)
  | text {name : String} {b : Bytes} : (Bytes.ofNat b.length).length ≤ 8 → Fits (.text name) (.bytes b)
  | blob {b : Bytes} : (Bytes.ofNat b.length).length ≤ 8 → Fits .blob (.bytes b)
  | fixed {n : Nat} {name : String} {b : Bytes} :
      b.length = n → (Bytes.ofNat n).length ≤ 8 → Fits (.fixed n name) (.bytes b)
  | seq {elem : Shape} {name : String} {vs : List Value} :
      (∀ v ∈ vs, Fits elem v) → (Bytes.ofNat (encodeAll vs).length).length ≤ 8 → Fits (.seq elem name) (.items vs)
  | record {name : String} {fields : List (String × Shape)} {vs : List Value} :
      fields.length = vs.length → (∀ p ∈ fields.zip vs, Fits p.1.2 p.2) →
      (Bytes.ofNat (encodeAll vs).length).length ≤ 8 → Fits (.record name fields) (.items vs)

theorem length_encode_pos (v : Value) : 0 < (encode v).length := by
  cases v with
  | num n =>
    simp only [encode]
    rcases encodeBytes_cases (Bytes.ofNat n) with ⟨x, -, -, he⟩ | ⟨-, he⟩ <;> rw [he] <;> simp [length_header_pos]
  | flag b => cases b <;> simp [encode]
  | bytes b =>
    simp only [encode]
    rcases encodeBytes_cases b with ⟨x, -, -, he⟩ | ⟨-, he⟩ <;> rw [he] <;> simp [length_header_pos]
  | items vs => simp [encode, length_header_pos]

theorem encodeAll_cons (v : Value) (vs : List Value) : encodeAll (v :: vs) = encode v ++ encodeAll vs := by
  simp [encodeAll]

theorem encode_items (vs : List Value) :
    encode (.items vs) = header 192 (encodeAll vs).length ++ encodeAll vs := by
  simp [encode]

namespace Stream

theorem kind_eol (input : Bytes) (L : List Nat) : kind ⟨input, 0 :: L⟩ = .error .eol := by
  simp [kind]
  rfl

end Stream

theorem readValue_eol (fuel : Nat) (shape : Shape) (input : Bytes) (L : List Nat) :
    readValue (fuel + 1) shape ⟨input, 0 :: L⟩ = .error (.low .eol) := by
  cases shape <;> simp [readValue, Stream.uint, Stream.bytes, Stream.enter, Stream.kind_eol, lowIn, lowAsIs,
    Bind.bind, Except.bind, Low.typed]

namespace Stream

theorem enter_items {p rest : Bytes} {lists : List Nat} (hp : (Bytes.ofNat p.length).length ≤ 8)
    (h : Room ((Rlp.header 192 p.length).length + p.length) lists) :
    enter ⟨Rlp.header 192 p.length ++ (p ++ rest), lists⟩ =
      .ok (p.length, ⟨p ++ rest, p.length :: spent ((Rlp.header 192 p.length).length + p.length) lists⟩) := by
  simp only [enter, kind_list hp h, Bind.bind, Except.bind]
  cases lists with
  | nil => rfl
  | cons l ls =>
    simp only [Room] at h
    simp only [spent, wordSub, if_pos (by omega : p.length ≤ l - (Rlp.header 192 p.length).length), Nat.sub_sub]
    rfl

theorem leave_zero (input : Bytes) (L : List Nat) : leave ⟨input, 0 :: L⟩ = .ok ⟨input, L⟩ := by
  simp [leave]

end Stream

/-- What reading a value needs of its fuel: one step for the value, and one
more for each item of a list and for its end. -/
abbrev FuelFor (v : Value) (fuel : Nat) : Prop := 2 * (encode v).length + 1 ≤ fuel

/-- Reading `v` with `shape` where it stands, whatever follows it. -/
def ReadsBack (shape : Shape) (v : Value) : Prop :=
  ∀ fuel, FuelFor v fuel → ∀ rest lists, Room (encode v).length lists →
    readValue fuel shape ⟨encode v ++ rest, lists⟩ = .ok (v, ⟨rest, spent (encode v).length lists⟩)

theorem readElems_encodeAll {elem : Shape} {vs : List Value} (ih : ∀ v ∈ vs, ReadsBack elem v)
    (fuel i : Nat) (hf : 2 * (encodeAll vs).length + 2 ≤ fuel) (rest : Bytes) (L : List Nat) :
    readElems fuel elem i ⟨encodeAll vs ++ rest, (encodeAll vs).length :: L⟩ = .ok (vs, ⟨rest, 0 :: L⟩) := by
  induction vs generalizing fuel i with
  | nil =>
    obtain ⟨f, rfl⟩ : ∃ f, fuel = f + 2 := ⟨fuel - 2, by simp [encodeAll] at hf; omega⟩
    simp [readElems, encodeAll, readValue_eol]
  | cons v vs ihs =>
    obtain ⟨f, rfl⟩ : ∃ f, fuel = f + 1 := ⟨fuel - 1, by simp [encodeAll] at hf; omega⟩
    have hv := length_encode_pos v
    have hlen : (encodeAll (v :: vs)).length = (encode v).length + (encodeAll vs).length := by
      simp [encodeAll_cons]
    rw [hlen] at hf
    have hfv : FuelFor v f := by show 2 * (encode v).length + 1 ≤ f; omega
    have hr := ih v (by simp) f hfv (encodeAll vs ++ rest)
      (((encode v).length + (encodeAll vs).length) :: L) (by simp [Room])
    rw [hlen, encodeAll_cons, List.append_assoc]
    simp only [readElems, hr, spent, Nat.add_sub_cancel_left]
    rw [ihs (fun w hw => ih w (by simp [hw])) f (i + 1) (by omega)]
    rfl

theorem readFields_encodeAll {name : String} {fields : List (String × Shape)} {vs : List Value}
    (hl : fields.length = vs.length) (ih : ∀ p ∈ fields.zip vs, ReadsBack p.1.2 p.2)
    (fuel : Nat) (hf : 2 * (encodeAll vs).length + 2 ≤ fuel) (rest : Bytes) (L : List Nat) :
    readFields fuel name fields ⟨encodeAll vs ++ rest, (encodeAll vs).length :: L⟩ = .ok (vs, ⟨rest, 0 :: L⟩) := by
  induction fields generalizing vs fuel with
  | nil =>
    obtain rfl : vs = [] := List.eq_nil_of_length_eq_zero hl.symm
    obtain ⟨f, rfl⟩ : ∃ f, fuel = f + 1 := ⟨fuel - 1, by omega⟩
    simp [readFields, encodeAll]
  | cons fd fields ihs =>
    obtain ⟨v, vs, rfl⟩ : ∃ v vs', vs = v :: vs' := List.exists_cons_of_length_eq_add_one hl.symm
    obtain ⟨f, rfl⟩ : ∃ f, fuel = f + 1 := ⟨fuel - 1, by omega⟩
    have hv := length_encode_pos v
    have hlen : (encodeAll (v :: vs)).length = (encode v).length + (encodeAll vs).length := by
      simp [encodeAll_cons]
    rw [hlen] at hf
    have hfv : FuelFor v f := by show 2 * (encode v).length + 1 ≤ f; omega
    have hr := ih (fd, v) (by simp) f hfv (encodeAll vs ++ rest)
      (((encode v).length + (encodeAll vs).length) :: L) (by simp [Room])
    rw [hlen, encodeAll_cons, List.append_assoc]
    simp only [readFields, hr, spent, Nat.add_sub_cancel_left]
    rw [ihs (by simpa using hl) (fun q hq => ih q (by simp [hq])) f (by omega)]
    rfl

theorem encodeAll_eq_nil {vs : List Value} (h : (encodeAll vs).length = 0) : vs = [] := by
  cases vs with
  | nil => rfl
  | cons v vs =>
    have := length_encode_pos v
    rw [encodeAll_cons, List.length_append] at h
    omega

theorem encode_flag (b : Bool) : encode (.flag b) = encode (.num (if b then 1 else 0)) := by
  cases b <;> rfl

theorem readsBack {shape : Shape} {v : Value} (hv : Fits shape v) : ReadsBack shape v := by
  induction hv with
  | uint hn hb =>
    intro fuel hf rest lists hr
    obtain ⟨f, rfl⟩ : ∃ f, fuel = f + 1 := ⟨fuel - 1, by unfold FuelFor at hf; omega⟩
    simp only [readValue, Stream.uint_num hn hb hr, lowIn, Bind.bind, Except.bind]
    rfl
  | bool b =>
    intro fuel hf rest lists hr
    obtain ⟨f, rfl⟩ : ∃ f, fuel = f + 1 := ⟨fuel - 1, by unfold FuelFor at hf; omega⟩
    rw [encode_flag] at hr ⊢
    have hn : (Bytes.ofNat (if b then 1 else 0)).length ≤ 8 / 8 := by cases b <;> decide
    simp only [readValue, Stream.uint_num hn (by decide) hr, lowIn, Bind.bind, Except.bind]
    cases b <;> rfl
  | text hb =>
    intro fuel hf rest lists hr
    obtain ⟨f, rfl⟩ : ∃ f, fuel = f + 1 := ⟨fuel - 1, by unfold FuelFor at hf; omega⟩
    simp only [encode] at hr ⊢
    simp only [readValue, Stream.bytes_encodeBytes hb hr, lowIn, Bind.bind, Except.bind]
    rfl
  | blob hb =>
    intro fuel hf rest lists hr
    obtain ⟨f, rfl⟩ : ∃ f, fuel = f + 1 := ⟨fuel - 1, by unfold FuelFor at hf; omega⟩
    simp only [encode] at hr ⊢
    simp only [readValue, Stream.bytes_encodeBytes hb hr, lowIn, Bind.bind, Except.bind]
    rfl
  | @fixed n name b hl hn =>
    intro fuel hf rest lists hr
    obtain ⟨f, rfl⟩ : ∃ f, fuel = f + 1 := ⟨fuel - 1, by unfold FuelFor at hf; omega⟩
    simp only [encode] at hr ⊢
    subst hl
    rcases encodeBytes_cases b with ⟨x, rfl, hx, he⟩ | ⟨hs, he⟩
    · rw [he] at hr ⊢
      simp [readValue, Stream.kind_byte hx hr, lowAsIs, Bind.bind, Except.bind]
      rfl
    · rw [he] at hr ⊢
      rw [List.length_append] at hr
      rw [List.append_assoc]
      simp only [readValue, Stream.kind_str hn hr, lowAsIs, Bind.bind, Except.bind, lt_irrefl, if_false,
        Stream.take_append hr.spent]
      have hc : ¬ (b.length = 1 ∧ b.head?.getD 0 < 128) := by
        rintro ⟨h1, h2⟩
        obtain ⟨x, rfl⟩ := List.length_eq_one_iff.mp h1
        exact hs x rfl (by simpa using h2)
      rw [if_neg (by simpa using hc)]
      simp only [spent_spent, List.length_append]
      rfl
  | @seq elem name vs hvs hp ih =>
    intro fuel hf rest lists hr
    obtain ⟨f, rfl⟩ : ∃ f, fuel = f + 1 := ⟨fuel - 1, by unfold FuelFor at hf; omega⟩
    have hh := length_header_pos 192 (encodeAll vs).length
    unfold FuelFor at hf
    rw [encode_items] at hf hr ⊢
    rw [List.length_append] at hf hr
    rw [List.append_assoc]
    simp only [readValue, Stream.enter_items hp hr, lowIn, lowAsIs, Bind.bind, Except.bind]
    by_cases h0 : (encodeAll vs).length = 0
    · obtain rfl := encodeAll_eq_nil h0
      simp [encodeAll]
      rfl
    · rw [if_neg h0, readElems_encodeAll ih f 0 (by omega)]
      simp only [Stream.leave_zero, List.length_append]
      rfl
  | @record name fields vs hl hvs hp ih =>
    intro fuel hf rest lists hr
    obtain ⟨f, rfl⟩ : ∃ f, fuel = f + 1 := ⟨fuel - 1, by unfold FuelFor at hf; omega⟩
    have hh := length_header_pos 192 (encodeAll vs).length
    unfold FuelFor at hf
    rw [encode_items] at hf hr ⊢
    rw [List.length_append] at hf hr
    rw [List.append_assoc]
    simp only [readValue, Stream.enter_items hp hr, lowIn, Bind.bind, Except.bind]
    rw [readFields_encodeAll hl ih f (by omega)]
    simp only [Stream.leave_zero, List.length_append]
    rfl

theorem decode_encode {shape : Shape} {v : Value} (hv : Fits shape v) : decode shape (encode v) = .ok v := by
  have h := readsBack hv (2 * (encode v).length + 2) (by unfold FuelFor; omega) [] [] trivial
  rw [List.append_nil] at h
  simp [decode, h]

end Issuance.Store.Rlp
