import Mathlib
import Issuance.Address
import Issuance.Proofs.Channel.IdText
/-! # Account text reads back

Bytes are regrouped into 5-bit values with zero padding (BIP-173), and the
bech32 checksum is linear in XOR, so six values complete a state exactly when
they are its checksum digits. From these, an address is read back from its
text, and text that reads as an address is that address's text, trimmed and
in lower case. -/
namespace Issuance.Bytes

theorem toText_ofString (s : String) : toText (ofString s) = s := by
  have h : ByteArray.mk (ofString s).toArray = s.toByteArray := by
    rw [ofString, String.toUTF8_eq_toByteArray, ByteArray.toList, toList_loop]
    simp
  rw [toText, h, String.fromUTF8?, dif_pos s.isValidUTF8]
  rfl

theorem ofString_append (s t : String) : ofString (s ++ t) = ofString s ++ ofString t := by
  simp only [ofString_eq, String.toList_append, List.flatMap_append]

theorem lt_of_utf8EncodeChar {c : Char} (h : ∀ x ∈ String.utf8EncodeChar c, x.toNat < 0xC0) : c.toNat < 128 := by
  have hc : c.val.toNat < 0xD800 ∨ (0xDFFF < c.val.toNat ∧ c.val.toNat < 0x110000) := c.valid
  by_contra hn
  simp only [Char.toNat, not_lt] at hn
  simp only [String.utf8EncodeChar] at h
  rw [if_neg (by omega)] at h
  split at h
  · have := h _ (List.mem_cons_self ..)
    rw [byte_toNat (by omega)] at this
    omega
  · split at h
    · have := h _ (List.mem_cons_self ..)
      rw [byte_toNat (by omega)] at this
      omega
    · have := h _ (List.mem_cons_self ..)
      rw [byte_toNat (by omega)] at this
      omega

theorem utf8EncodeChar_ofNat : ∀ n : Fin 128, String.utf8EncodeChar (Char.ofNat n) = [UInt8.ofNat n] := by
  decide

theorem ofString_ofList_ascii {b : Bytes} (h : ∀ x ∈ b, x.toNat < 128) :
    ofString (String.ofList (b.map fun x => Char.ofNat x.toNat)) = b := by
  rw [ofString_eq, String.toList_ofList]
  induction b with
  | nil => rfl
  | cons x b ih =>
    have hx := h x (by simp)
    rw [List.map_cons, List.flatMap_cons, utf8EncodeChar_ofNat ⟨x.toNat, hx⟩, UInt8.ofNat_toNat,
      ih (fun y hy => h y (by simp [hy]))]
    rfl

theorem ofString_toText_ascii {b : Bytes} (h : ∀ x ∈ b, x.toNat < 128) : ofString (toText b) = b := by
  conv_lhs => rw [← ofString_ofList_ascii h]
  rw [toText_ofString, ofString_ofList_ascii h]

theorem utf8EncodeChar_toLower : ∀ n : Fin 128,
    String.utf8EncodeChar (Char.ofNat n).toLower = (String.utf8EncodeChar (Char.ofNat n)).map Text.Bech32.lowerByte := by
  decide

theorem ofString_toLower {s : String} (h : ∀ x ∈ ofString s, x.toNat < 128) :
    ofString s.toLower = (ofString s).map Text.Bech32.lowerByte := by
  rw [ofString_eq] at h
  rw [ofString_eq, ofString_eq, String.toLower, String.toList_map]
  generalize s.toList = cs at h ⊢
  induction cs with
  | nil => rfl
  | cons c cs ih =>
    rw [List.flatMap_cons] at h
    have hc := lt_of_utf8EncodeChar (c := c) fun x hx => by have := h x (List.mem_append_left _ hx); omega
    rw [List.map_cons, List.flatMap_cons, List.flatMap_cons, List.map_append, ih (fun x hx => h x (by simp [hx])),
      ← Char.ofNat_toNat c]
    rw [utf8EncodeChar_toLower ⟨c.toNat, hc⟩]

end Issuance.Bytes

namespace Issuance.Text.Bech32

/-! ## Bits -/

theorem length_bits (w v : Nat) : (bits w v).length = w := by simp [bits]

theorem bits_succ (w v : Nat) : bits (w + 1) v = decide (v / 2 ^ w % 2 = 1) :: bits w v := by
  simp [bits, List.range_succ]

theorem foldl_ofBits (acc : Nat) (bs : List Bool) :
    bs.foldl (fun acc b => acc * 2 + if b then 1 else 0) acc = acc * 2 ^ bs.length + ofBits bs := by
  induction bs generalizing acc with
  | nil => simp [ofBits]
  | cons b bs ih =>
    simp only [List.foldl_cons, ofBits, List.length_cons] at ih ⊢
    rw [ih, ih (0 * 2 + _)]
    cases b <;> simp [Nat.pow_succ] <;> ring

theorem ofBits_cons (b : Bool) (bs : List Bool) :
    ofBits (b :: bs) = (if b then 1 else 0) * 2 ^ bs.length + ofBits bs := by
  rw [ofBits, List.foldl_cons, foldl_ofBits]
  simp

theorem ofBits_lt (bs : List Bool) : ofBits bs < 2 ^ bs.length := by
  induction bs with
  | nil => simp [ofBits]
  | cons b bs ih =>
    rw [ofBits_cons, List.length_cons, Nat.pow_succ]
    cases b <;> simp <;> omega

theorem ofBits_bits (w v : Nat) : ofBits (bits w v) = v % 2 ^ w := by
  induction w with
  | zero => simp [bits, ofBits, Nat.mod_one]
  | succ w ih =>
    rw [bits_succ, ofBits_cons, ih, length_bits, Nat.mod_pow_succ]
    rcases Nat.mod_two_eq_zero_or_one (v / 2 ^ w) with h | h <;> simp [h]; ring

theorem ofBits_inj {xs ys : List Bool} (hl : xs.length = ys.length) (h : ofBits xs = ofBits ys) : xs = ys := by
  induction xs generalizing ys with
  | nil => simpa using hl.symm
  | cons x xs ih =>
    obtain ⟨y, ys, rfl⟩ := List.exists_cons_of_length_eq_add_one hl.symm
    simp only [List.length_cons, Nat.add_right_cancel_iff] at hl
    rw [ofBits_cons, ofBits_cons, ← hl] at h
    have hx := ofBits_lt xs
    have hy := ofBits_lt ys
    rw [← hl] at hy
    cases x <;> cases y <;> simp at h
    · rw [ih hl h]
    · omega
    · omega
    · rw [ih hl (by omega)]

theorem bits_ofBits (bs : List Bool) : bits bs.length (ofBits bs) = bs :=
  ofBits_inj (length_bits _ _) (by rw [ofBits_bits, Nat.mod_eq_of_lt (ofBits_lt bs)])

/-! ## Groups -/

theorem groups_nil (n : Nat) : groups n [] = [] := by simp [groups]

theorem groups_of_le {n : Nat} {bs : List Bool} (h : bs.length ≤ n) (hb : bs ≠ []) : groups n bs = [bs] := by
  rw [groups, if_pos (.inl h), if_neg hb]

theorem groups_of_lt {n : Nat} {bs : List Bool} (hn : 0 < n) (h : n < bs.length) :
    groups n bs = bs.take n :: groups n (bs.drop n) := by
  rw [groups, if_neg (by omega)]

theorem flatten_groups (n : Nat) (bs : List Bool) : (groups n bs).flatten = bs := by
  fun_induction groups n bs with
  | case1 => rfl
  | case2 => simp
  | case3 bs _ ih => simp [ih]

theorem length_le_of_mem_groups {n : Nat} {bs g : List Bool} (hn : 0 < n) (hg : g ∈ groups n bs) :
    g.length ≤ n := by
  fun_induction groups n bs with
  | case1 => simp at hg
  | case2 bs h _ =>
    rw [List.mem_singleton.mp hg]
    omega
  | case3 bs _ ih =>
    rcases List.mem_cons.mp hg with rfl | hg
    · simp
    · exact ih hg

theorem length_of_mem_groups {n : Nat} {bs g : List Bool} (hd : n ∣ bs.length) (hg : g ∈ groups n bs) :
    g.length = n := by
  fun_induction groups n bs with
  | case1 => simp at hg
  | case2 bs h hne =>
    rw [List.mem_singleton.mp hg]
    have hp := List.length_pos_of_ne_nil hne
    have hle := Nat.le_of_dvd hp hd
    rcases h with h | rfl
    · omega
    · exact Nat.eq_zero_of_zero_dvd hd
  | case3 bs h ih =>
    rcases List.mem_cons.mp hg with rfl | hg
    · simp only [List.length_take]
      omega
    · exact ih (by rw [List.length_drop]; exact Nat.dvd_sub hd (Nat.dvd_refl n)) hg

theorem groups_flatMap {α : Type} {n : Nat} {f : α → List Bool} (hn : 0 < n) (xs : List α)
    (hf : ∀ x, (f x).length = n) : groups n (xs.flatMap f) = xs.map f := by
  induction xs with
  | nil => simp [groups_nil]
  | cons x xs ih =>
    rw [List.flatMap_cons]
    cases xs with
    | nil =>
      have hx : f x ≠ [] := List.ne_nil_of_length_pos (by rw [hf x]; exact hn)
      rw [List.flatMap_nil, List.append_nil, groups_of_le (hf x).le hx]
      rfl
    | cons y ys =>
      have hl : n < (f x ++ (y :: ys).flatMap f).length := by
        simp only [List.length_append, List.flatMap_cons, hf]
        omega
      rw [groups_of_lt hn hl, List.take_left' (hf x), List.drop_left' (hf x), ih]
      rfl

/-- A group padded with zero bits to `n`. -/
def pad (n : Nat) (g : List Bool) : List Bool := g ++ List.replicate (n - g.length) false

theorem flatten_pad_groups {n : Nat} (hn : 0 < n) (bs : List Bool) :
    ((groups n bs).map (pad n)).flatten = bs ++ List.replicate ((n - bs.length % n) % n) false := by
  fun_induction groups n bs with
  | case1 => simp
  | case2 bs h hne =>
    have hp := List.length_pos_of_ne_nil hne
    rcases Nat.lt_or_ge bs.length n with hlt | hge
    · rw [Nat.mod_eq_of_lt hlt, Nat.mod_eq_of_lt (by omega)]
      simp [pad]
    · have he : bs.length = n := by omega
      simp [pad, he]
  | case3 bs h ih =>
    have hl : (bs.take n).length = n := by simp; omega
    rw [List.map_cons, List.flatten_cons, ih, pad, hl, Nat.sub_self, List.replicate_zero, List.append_nil,
      ← List.append_assoc, List.take_append_drop, List.length_drop]
    have hm : (bs.length - n) % n = bs.length % n := by
      rw [← Nat.add_mod_right, Nat.sub_add_cancel (by omega)]
    rw [hm]

/-! ## Regrouping -/

theorem length_pad_of_mem {n : Nat} {bs g : List Bool} (hn : 0 < n) (hg : g ∈ groups n bs) :
    (pad n g).length = n := by
  have := length_le_of_mem_groups hn hg
  simp only [pad, List.length_append, List.length_replicate]
  omega

theorem lt_of_mem_toFive {b : Bytes} {v : Nat} (h : v ∈ toFive b) : v < 32 := by
  obtain ⟨g, hg, rfl⟩ := List.mem_map.mp h
  have hl := ofBits_lt (pad 5 g)
  rwa [length_pad_of_mem (by decide) hg] at hl

theorem flatMap_bits_toFive (b : Bytes) :
    (toFive b).flatMap (bits 5) = (b.flatMap fun x => bits 8 x.toNat) ++
      List.replicate ((5 - (b.flatMap fun x => bits 8 x.toNat).length % 5) % 5) false := by
  rw [← flatten_pad_groups (by decide), toFive, List.flatMap_map, List.flatMap_def]
  congr 1
  apply List.map_congr_left
  intro g hg
  have hb := bits_ofBits (pad 5 g)
  rw [length_pad_of_mem (by decide) hg] at hb
  exact hb

theorem length_flatMap_of {α : Type} {w : Nat} {f : α → List Bool} (hf : ∀ x, (f x).length = w) (xs : List α) :
    (xs.flatMap f).length = w * xs.length := by
  induction xs with
  | nil => simp
  | cons x xs ih => simp only [List.flatMap_cons, List.length_append, hf, ih, List.length_cons]; ring

theorem map_ofBits_groups {w : Nat} (hw : 0 < w) {xs : List Nat} (h : ∀ v ∈ xs, v < 2 ^ w) :
    (groups w (xs.flatMap (bits w))).map ofBits = xs := by
  rw [groups_flatMap hw xs (length_bits w), List.map_map]
  conv_rhs => rw [← List.map_id xs]
  apply List.map_congr_left
  intro v hv
  simp [ofBits_bits, Nat.mod_eq_of_lt (h v hv)]

theorem replicate_of_any {l : List Bool} (h : l.any id = false) : l = List.replicate l.length false :=
  List.eq_replicate_iff.mpr ⟨rfl, fun b hb => by simpa using List.any_eq_false.mp h b hb⟩

theorem toEight_toFive (b : Bytes) : toEight (toFive b) = some b := by
  have hB := length_flatMap_of (fun x : UInt8 => length_bits 8 x.toNat) b
  have hp : (5 - (b.flatMap fun x => bits 8 x.toNat).length % 5) % 5 < 5 := Nat.mod_lt _ (by decide)
  have hw : ((b.flatMap fun x => bits 8 x.toNat) ++ List.replicate ((5 - (b.flatMap fun x => bits 8 x.toNat).length % 5) % 5) false).length / 8 * 8 = 8 * b.length := by
    simp only [List.length_append, List.length_replicate, hB]
    omega
  simp only [toEight, flatMap_bits_toFive, hw]
  rw [← hB, List.drop_left, List.take_left]
  simp only [List.length_replicate, List.any_replicate, id, ite_self, Bool.or_false, decide_eq_true_eq]
  rw [if_neg (by omega), groups_flatMap (by decide) b (fun x => length_bits 8 x.toNat), List.map_map]
  conv_rhs => rw [← List.map_id b]
  congr 1
  apply List.map_congr_left
  intro x _
  simp [ofBits_bits, Nat.mod_eq_of_lt x.toNat_lt]

theorem flatMap_bits_groups {T : List Bool} (hT : 8 ∣ T.length) :
    (((groups 8 T).map fun g => (ofBits g).toUInt8).flatMap fun x => bits 8 x.toNat) = T := by
  rw [List.flatMap_map]
  conv_rhs => rw [← flatten_groups 8 T, ← List.map_id (groups 8 T)]
  rw [List.flatMap_def]
  congr 1
  apply List.map_congr_left
  intro g hg
  have hg8 := length_of_mem_groups hT hg
  have hlt := ofBits_lt g
  rw [hg8] at hlt
  have hv : (ofBits g).toUInt8.toNat = ofBits g := by simpa using hlt
  rw [hv, ← hg8, bits_ofBits, id]

/-- 5-bit values that regroup into bytes are those bytes' 5-bit values:
the partial group left over can only have been padding. -/
theorem toFive_of_toEight {d : List Nat} {b : Bytes} (hd : ∀ v ∈ d, v < 32) (h : toEight d = some b) :
    toFive b = d := by
  simp only [toEight] at h
  split at h
  · cases h
  rename_i hc
  simp only [Bool.or_eq_true, decide_eq_true_eq, not_or, Bool.not_eq_true] at hc
  obtain ⟨hlen, hany⟩ := hc
  injection h with h
  subst h
  have hall : (d.flatMap (bits 5)).length = 5 * d.length := length_flatMap_of (length_bits 5) d
  have hT : ((d.flatMap (bits 5)).take ((d.flatMap (bits 5)).length / 8 * 8)).length =
      (d.flatMap (bits 5)).length / 8 * 8 := by
    rw [List.length_take]
    omega
  rw [← map_ofBits_groups (w := 5) (by decide) (fun v hv => lt_of_mem_toFive hv), flatMap_bits_toFive,
    flatMap_bits_groups (by rw [hT]; exact Nat.dvd_mul_left 8 _)]
  have htail := replicate_of_any hany
  rw [List.length_drop] at htail hlen
  rw [hT, show (5 - (d.flatMap (bits 5)).length / 8 * 8 % 5) % 5 =
      (d.flatMap (bits 5)).length - (d.flatMap (bits 5)).length / 8 * 8 by omega, ← htail,
    List.take_append_drop]
  exact map_ofBits_groups (by decide) hd

/-! ## The checksum -/

/-- The generators that the top five bits of the checksum state select. -/
def spread (top : Nat) : Nat :=
  (List.range 5).foldl (fun c i => if top / 2 ^ i % 2 = 1 then c ^^^ generator.getD i 0 else c) 0

/-- One step of the checksum on a zero value: the low 25 bits move up five
places and the top five bits add their generators. -/
def mix (chk : Nat) : Nat := chk % 2 ^ 25 * 32 ^^^ spread (chk / 2 ^ 25)

/-- The checksum state after some values. -/
def run (chk : Nat) (values : List Nat) : Nat := values.foldl (fun chk v => mix chk ^^^ v) chk

theorem foldl_select_xor (top : Nat) (is : List Nat) (a v : Nat) :
    is.foldl (fun c i => if top / 2 ^ i % 2 = 1 then c ^^^ generator.getD i 0 else c) (a ^^^ v) =
      is.foldl (fun c i => if top / 2 ^ i % 2 = 1 then c ^^^ generator.getD i 0 else c) a ^^^ v := by
  induction is generalizing a with
  | nil => rfl
  | cons i is ih =>
    simp only [List.foldl_cons]
    split
    · rw [← ih, Nat.xor_assoc, Nat.xor_comm v, ← Nat.xor_assoc]
    · exact ih a

theorem polymod_eq (values : List Nat) : polymod values = run 1 values := by
  simp only [polymod, run, mix, spread, Nat.pow_eq]
  congr 1
  funext chk v
  rw [foldl_select_xor]
  conv_lhs => rw [← Nat.zero_xor (chk % 2 ^ 25 * 32), foldl_select_xor]
  rw [Nat.xor_comm (List.foldl _ 0 _)]

theorem xor_xor_xor_self (a b g : Nat) : (a ^^^ g) ^^^ (b ^^^ g) = a ^^^ b := by
  rw [Nat.xor_assoc, Nat.xor_comm b g, ← Nat.xor_assoc g, Nat.xor_self, Nat.zero_xor]

theorem foldl_select_linear (s t : Nat) (is : List Nat) (a b : Nat) :
    is.foldl (fun c i => if (s ^^^ t) / 2 ^ i % 2 = 1 then c ^^^ generator.getD i 0 else c) (a ^^^ b) =
      is.foldl (fun c i => if s / 2 ^ i % 2 = 1 then c ^^^ generator.getD i 0 else c) a ^^^
        is.foldl (fun c i => if t / 2 ^ i % 2 = 1 then c ^^^ generator.getD i 0 else c) b := by
  induction is generalizing a b with
  | nil => rfl
  | cons i is ih =>
    have hbit : (s ^^^ t) / 2 ^ i % 2 = 1 ↔ ¬(s / 2 ^ i % 2 = 1 ↔ t / 2 ^ i % 2 = 1) := by
      rw [Nat.xor_div_two_pow, Nat.xor_mod_two_eq_one]
    simp only [List.foldl_cons]
    by_cases hs : s / 2 ^ i % 2 = 1 <;> by_cases ht : t / 2 ^ i % 2 = 1
    · rw [if_neg (by tauto), if_pos hs, if_pos ht, ← ih, xor_xor_xor_self]
    · rw [if_pos (by tauto), if_pos hs, if_neg ht, ← ih]
      congr 1
      ac_rfl
    · rw [if_pos (by tauto), if_neg hs, if_pos ht, ← ih, Nat.xor_assoc]
    · rw [if_neg (by tauto), if_neg hs, if_neg ht, ← ih]

theorem spread_xor (s t : Nat) : spread (s ^^^ t) = spread s ^^^ spread t := by
  have h := foldl_select_linear s t (List.range 5) 0 0
  rwa [Nat.xor_zero] at h

theorem mix_xor (x y : Nat) : mix (x ^^^ y) = mix x ^^^ mix y := by
  have h32 : ∀ a : Nat, a * 32 = a <<< 5 := fun a => by rw [Nat.shiftLeft_eq]
  simp only [mix, Nat.xor_mod_two_pow, Nat.xor_div_two_pow, spread_xor, h32, Nat.shiftLeft_xor_distrib]
  ac_rfl

theorem generator_lt (i : Nat) : generator.getD i 0 < 2 ^ 30 := by
  unfold generator
  rcases i with _ | _ | _ | _ | _ | i <;> simp

theorem foldl_select_lt (top : Nat) (is : List Nat) {a : Nat} (ha : a < 2 ^ 30) :
    is.foldl (fun c i => if top / 2 ^ i % 2 = 1 then c ^^^ generator.getD i 0 else c) a < 2 ^ 30 := by
  induction is generalizing a with
  | nil => exact ha
  | cons i is ih =>
    simp only [List.foldl_cons]
    split
    · exact ih (Nat.xor_lt_two_pow ha (generator_lt i))
    · exact ih ha

theorem mix_lt (x : Nat) : mix x < 2 ^ 30 :=
  Nat.xor_lt_two_pow (by omega) (foldl_select_lt _ _ (by decide))

theorem run_lt {x : Nat} {cs : List Nat} (hx : x < 2 ^ 30) (hc : ∀ c ∈ cs, c < 2 ^ 30) : run x cs < 2 ^ 30 := by
  induction cs generalizing x with
  | nil => exact hx
  | cons c cs ih =>
    exact ih (Nat.xor_lt_two_pow (mix_lt x) (hc c (by simp))) (fun v hv => hc v (by simp [hv]))

theorem run_append (x : Nat) (xs ys : List Nat) : run x (xs ++ ys) = run (run x xs) ys :=
  List.foldl_append ..

theorem run_xor (a b : Nat) (cs ds : List Nat) (h : cs.length = ds.length) :
    run (a ^^^ b) (List.zipWith (· ^^^ ·) cs ds) = run a cs ^^^ run b ds := by
  induction cs generalizing a b ds with
  | nil =>
    rw [List.length_nil, eq_comm, List.length_eq_zero_iff] at h
    subst h
    rfl
  | cons c cs ih =>
    obtain ⟨d, ds, rfl⟩ := List.exists_cons_of_length_eq_add_one h.symm
    simp only [List.zipWith_cons_cons, run, List.foldl_cons] at ih ⊢
    rw [mix_xor, show mix a ^^^ mix b ^^^ (c ^^^ d) = (mix a ^^^ c) ^^^ (mix b ^^^ d) by ac_rfl]
    exact ih _ _ _ (by simpa using h)

theorem zipWith_xor_replicate_zero (cs : List Nat) :
    List.zipWith (· ^^^ ·) (List.replicate cs.length 0) cs = cs := by
  induction cs with
  | nil => rfl
  | cons c cs ih => simp [List.replicate_succ, ih]

theorem run_split (x : Nat) (cs : List Nat) :
    run x cs = run x (List.replicate cs.length 0) ^^^ run 0 cs := by
  have h := run_xor x 0 (List.replicate cs.length 0) cs (by simp)
  rwa [Nat.xor_zero, zipWith_xor_replicate_zero] at h

theorem mul_two_pow_xor {a c n : Nat} (hc : c < 2 ^ n) : a * 2 ^ n ^^^ c = a * 2 ^ n + c := by
  apply Nat.eq_of_testBit_eq
  intro j
  rw [Nat.testBit_xor, Nat.mul_comm, Nat.testBit_two_pow_mul_add a hc, Nat.testBit_two_pow_mul]
  by_cases hj : j < n
  · simp [hj, Nat.not_le.mpr hj]
  · have : c.testBit j = false := Nat.testBit_lt_two_pow (lt_of_lt_of_le hc (Nat.pow_le_pow_right (by decide) (by omega)))
    simp [hj, this]; omega

theorem mix_xor_of_lt {x c : Nat} (hx : x < 2 ^ 25) (hc : c < 32) : mix x ^^^ c = x * 32 + c := by
  have hs : spread (x / 2 ^ 25) = 0 := by rw [Nat.div_eq_of_lt hx]; rfl
  rw [mix, hs, Nat.xor_zero, Nat.mod_eq_of_lt hx]
  exact mul_two_pow_xor (n := 5) hc

theorem xor_eq_iff {a b c : Nat} : a ^^^ b = c ↔ b = a ^^^ c := by
  constructor <;> rintro rfl <;> rw [← Nat.xor_assoc, Nat.xor_self, Nat.zero_xor]

/-- Six values complete a state `x` to one exactly when they are the digits of
`x` run over six zeros, with its lowest bit flipped. -/
theorem run_six_eq_one_iff {x : Nat} {cs : List Nat} (hx : x < 2 ^ 30) (hl : cs.length = 6)
    (hc : ∀ c ∈ cs, c < 32) :
    run x cs = 1 ↔ cs = (List.range 6).map fun i => (run x (List.replicate 6 0) ^^^ 1) / Nat.pow 32 (5 - i) % 32 := by
  have hz : run x (List.replicate 6 0) ^^^ 1 < 2 ^ 30 :=
    Nat.xor_lt_two_pow (run_lt hx (by simp)) (by decide)
  rw [run_split, hl, xor_eq_iff]
  generalize run x (List.replicate 6 0) ^^^ 1 = m at hz
  obtain ⟨c0, c1, c2, c3, c4, c5, rfl⟩ : ∃ c0 c1 c2 c3 c4 c5, cs = [c0, c1, c2, c3, c4, c5] := by
    match cs, hl with
    | [c0, c1, c2, c3, c4, c5], _ => exact ⟨c0, c1, c2, c3, c4, c5, rfl⟩
  simp only [List.mem_cons, List.not_mem_nil, or_false, forall_eq_or_imp, forall_eq] at hc
  obtain ⟨h0, h1, h2, h3, h4, h5⟩ := hc
  simp (disch := omega) only [run, List.foldl_cons, List.foldl_nil, mix_xor_of_lt]
  simp [List.range_succ, Nat.pow_eq]
  omega

/-! ## Letters -/

/-- The byte of the letter of a 5-bit value. -/
def letterByte (v : Nat) : UInt8 := UInt8.ofNat (charset.getD v 'q').toNat

theorem letterByte_facts : ∀ v : Fin 32, 33 ≤ (letterByte v).toNat ∧ (letterByte v).toNat ≤ 126 ∧
    letterByte v ≠ 49 ∧ lowerByte (letterByte v) = letterByte v ∧
      charset.idxOf? (Char.ofNat (letterByte v).toNat) = some v := by
  decide

theorem utf8EncodeChar_letter : ∀ v : Fin 32, String.utf8EncodeChar (charset.getD v 'q') = [letterByte v] := by
  decide

set_option maxRecDepth 2000 in
theorem letterByte_of_idxOf? : ∀ x : Fin 127,
    (charset.idxOf? (Char.ofNat x)).all (fun v => decide (v < 32) && letterByte v == UInt8.ofNat x) = true := by
  decide

theorem checksum_lt (hrp : Bytes) (data : List Nat) : ∀ v ∈ checksum hrp data, v < 32 := by
  intro v hv
  obtain ⟨i, -, rfl⟩ := List.mem_map.mp hv
  exact Nat.mod_lt _ (by decide)

theorem ofString_toChars {ds : List Nat} (h : ∀ v ∈ ds, v < 32) : Bytes.ofString (toChars ds) = ds.map letterByte := by
  rw [Bytes.ofString_eq, toChars, String.toList_ofList, List.flatMap_map]
  induction ds with
  | nil => rfl
  | cons d ds ih =>
    rw [List.flatMap_cons, utf8EncodeChar_letter ⟨d, h d (by simp)⟩, ih (fun v hv => h v (by simp [hv]))]
    rfl

theorem ofString_encode (hrp : String) {data : List Nat} (h : ∀ v ∈ data, v < 32) :
    Bytes.ofString (encode hrp data) =
      Bytes.ofString hrp ++ 49 :: (data ++ checksum (Bytes.ofString hrp) data).map letterByte := by
  have h1 : Bytes.ofString "1" = [49] := by rw [Bytes.ofString_eq]; rfl
  rw [encode, Bytes.ofString_append, Bytes.ofString_append, ofString_toChars, h1, List.append_assoc]
  · rfl
  · intro v hv
    rcases List.mem_append.mp hv with hv | hv
    · exact h v hv
    · exact checksum_lt _ _ v hv

theorem length_checksum (hrp : Bytes) (data : List Nat) : (checksum hrp data).length = 6 := by
  simp [checksum]

theorem run_expand_lt (hrp : Bytes) {data : List Nat} (h : ∀ v ∈ data, v < 32) :
    run 1 (expand hrp ++ data) < 2 ^ 30 := by
  refine run_lt (by decide) fun v hv => ?_
  rcases List.mem_append.mp hv with hv | hv
  · simp only [expand, List.mem_append, List.mem_map, List.mem_singleton] at hv
    rcases hv with (⟨b, -, rfl⟩ | rfl) | ⟨b, -, rfl⟩
    · have := b.toNat_lt
      omega
    · decide
    · omega
  · exact lt_trans (h v hv) (by decide)

theorem verify_append_iff (hrp : Bytes) {data cs : List Nat} (h : ∀ v ∈ data, v < 32) (hl : cs.length = 6)
    (hc : ∀ v ∈ cs, v < 32) : verify hrp (data ++ cs) = true ↔ cs = checksum hrp data := by
  rw [verify, decide_eq_true_iff, polymod_eq, ← List.append_assoc, run_append,
    run_six_eq_one_iff (run_expand_lt hrp h) hl hc, checksum, polymod_eq, run_append 1 (expand hrp ++ data)]
  rfl

theorem lastSeparator_append (pre post : Bytes) (h : ∀ x ∈ post, x ≠ 49) :
    lastSeparator (pre ++ 49 :: post) = some pre.length := by
  have hp : ((49 :: post).zipIdx pre.length).filter (·.1 = 49) = [(49, pre.length)] := by
    rw [List.zipIdx_cons, List.filter_cons_of_pos (by simp), List.filter_eq_nil_iff.mpr]
    intro p hp
    have := h p.1 (List.fst_mem_of_mem_zipIdx hp)
    simpa using this
  rw [lastSeparator, List.zipIdx_append, List.filter_append, Nat.zero_add, hp, List.getLast?_append]
  rfl

theorem mapM_letters {F : UInt8 → Except DecodeError Nat} {ds : List Nat} (h : ∀ v ∈ ds, v < 32)
    (hF : ∀ v < 32, F (letterByte v) = .ok v) : (ds.map letterByte).mapM F = .ok ds := by
  induction ds with
  | nil => rfl
  | cons d ds ih =>
    rw [List.map_cons, List.mapM_cons, hF d (h d (by simp)), ih (fun v hv => h v (by simp [hv]))]
    rfl

theorem decode_encode {data : List Nat} (h : ∀ v ∈ data, v < 32) (hl : data.length ≤ 80) :
    decode (encode "sfx" data) = .ok ("sfx", data) := by
  have hs : Bytes.ofString "sfx" = [115, 102, 120] := by rw [Bytes.ofString_eq]; rfl
  have hall : ∀ v ∈ data ++ checksum [115, 102, 120] data, v < 32 := fun v hv =>
    (List.mem_append.mp hv).elim (h v) (checksum_lt _ _ v)
  rw [decode, ofString_encode _ h, hs]
  have hlow : ([115, 102, 120] ++ 49 :: (data ++ checksum [115, 102, 120] data).map letterByte).map lowerByte =
      [115, 102, 120] ++ 49 :: (data ++ checksum [115, 102, 120] data).map letterByte := by
    have hL : ((data ++ checksum [115, 102, 120] data).map letterByte).map lowerByte =
        (data ++ checksum [115, 102, 120] data).map letterByte := by
      rw [List.map_map]
      exact List.map_congr_left fun v hv => (letterByte_facts ⟨v, hall v hv⟩).2.2.2.1
    have h4 : ([115, 102, 120] : Bytes).map lowerByte = [115, 102, 120] := by decide
    rw [List.map_append, h4]
    congr 1
    rw [List.map_cons, hL]
    rfl
  have hfind : ([115, 102, 120] ++ 49 :: (data ++ checksum [115, 102, 120] data).map letterByte).find?
      (fun x => decide (x < 33) || decide (x > 126)) = none := by
    rw [List.find?_eq_none]
    intro x hx
    simp only [List.mem_append, List.mem_cons, List.mem_map] at hx
    rcases hx with ((rfl | rfl | rfl | hx) | rfl | ⟨v, hv, rfl⟩)
    · decide
    · decide
    · decide
    · simp at hx
    · decide
    · have := letterByte_facts ⟨v, hall v (List.mem_append.mpr hv)⟩
      simp only [Bool.or_eq_true, decide_eq_true_eq, not_or, not_lt, UInt8.lt_iff_toNat_lt]
      exact ⟨by simpa using this.1, by simpa using this.2.1⟩
  have hsep := lastSeparator_append [115, 102, 120] ((data ++ checksum [115, 102, 120] data).map letterByte) (by
      intro x hx
      obtain ⟨v, hv, rfl⟩ := List.mem_map.mp hx
      exact (letterByte_facts ⟨v, hall v hv⟩).2.2.1)
  have hver := (verify_append_iff [115, 102, 120] h (length_checksum _ _) (checksum_lt _ _)).mpr rfl
  have htext : Bytes.toText [115, 102, 120] = "sfx" := by rw [← hs, Bytes.toText_ofString]
  simp only [hlow, hfind, hsep, List.length_append, List.length_cons, List.length_map, length_checksum,
    List.length_nil, bne_self_eq_false, Bool.false_and, Bool.false_eq_true, if_false]
  rw [if_neg (by simp; omega), if_neg (by simp; omega), pure_bind]
  rw [show List.drop (0 + 1 + 1 + 1 + 1) ([115, 102, 120] ++ 49 :: (data ++ checksum [115, 102, 120] data).map letterByte) =
    (data ++ checksum [115, 102, 120] data).map letterByte from rfl, mapM_letters hall]
  · rw [show List.take (0 + 1 + 1 + 1) ([115, 102, 120] ++ 49 :: (data ++ checksum [115, 102, 120] data).map letterByte) =
      [115, 102, 120] from rfl]
    simp only [bind, Except.bind, hver, if_true, htext, List.length_append, length_checksum, Nat.add_sub_cancel,
      List.take_left' rfl]
    rfl
  · intro v hv
    simp only [(letterByte_facts ⟨v, hv⟩).2.2.2.2]
    rfl

theorem lastSeparator_some {l : Bytes} {i : Nat} (h : lastSeparator l = some i) :
    l = l.take i ++ 49 :: l.drop (i + 1) := by
  obtain ⟨p, hp, rfl⟩ := Option.map_eq_some_iff.mp h
  have hmem := List.mem_of_getLast? hp
  obtain ⟨hz, h49⟩ := List.mem_filter.mp hmem
  have hget := List.mem_zipIdx_iff_getElem?.mp hz
  simp only [decide_eq_true_eq] at h49
  rw [h49] at hget
  have hlt : p.2 < l.length := (List.getElem?_eq_some_iff.mp hget).1
  conv_lhs => rw [← List.take_append_drop p.2 l, List.drop_eq_getElem_cons hlt]
  rw [(List.getElem?_eq_some_iff.mp hget).2]

theorem letters_of_mapM {F : UInt8 → Except DecodeError Nat} {l : Bytes} {ds : List Nat}
    (hl : ∀ x ∈ l, x.toNat < 127) (h : l.mapM F = .ok ds)
    (hF : ∀ x : UInt8, x.toNat < 127 → ∀ v, F x = .ok v → v < 32 ∧ letterByte v = x) :
    l = ds.map letterByte ∧ ∀ v ∈ ds, v < 32 := by
  induction l generalizing ds with
  | nil =>
    cases h
    simp
  | cons x l ih =>
    rw [List.mapM_cons] at h
    simp only [bind, Except.bind] at h
    split at h
    · cases h
    rename_i v hv
    split at h
    · cases h
    rename_i vs hvs
    cases h
    obtain ⟨hv32, hvx⟩ := hF x (hl x (by simp)) v hv
    obtain ⟨rfl, hvs32⟩ := ih (fun y hy => hl y (by simp [hy])) hvs
    refine ⟨by rw [List.map_cons, hvx], ?_⟩
    intro w hw
    rcases List.mem_cons.mp hw with rfl | hw
    · exact hv32
    · exact hvs32 w hw

theorem lowerByte_le {x : UInt8} (h : x.toNat ≤ 126) : (lowerByte x).toNat ≤ 126 := by
  unfold lowerByte
  split
  · rename_i hc
    simp only [Bool.and_eq_true, decide_eq_true_eq, UInt8.le_iff_toNat_le] at hc
    rw [UInt8.toNat_add]
    simp at hc ⊢
    omega
  · exact h

/-- Text that reads as bech32 is, in lower case, the text of what it reads
as; its bytes are printable ASCII and its values 5-bit. -/
theorem decode_canonical {s hrp : String} {data : List Nat} (hd : decode s = .ok (hrp, data)) :
    (Bytes.ofString s).map lowerByte = Bytes.ofString (encode hrp data) ∧ (∀ v ∈ data, v < 32) ∧
      ∀ x ∈ Bytes.ofString s, x.toNat ≤ 126 := by
  unfold decode at hd
  dsimp only at hd
  split at hd
  · cases hd
  split at hd
  · cases hd
  rename_i hfind
  have h126 : ∀ x ∈ Bytes.ofString s, x.toNat ≤ 126 := by
    intro x hx
    have := List.find?_eq_none.mp hfind x hx
    simp only [Bool.or_eq_true, decide_eq_true_eq, not_or, not_lt, UInt8.lt_iff_toNat_lt] at this
    simpa using this.2
  split at hd
  · cases hd
  cases hsep : lastSeparator ((Bytes.ofString s).map lowerByte) with
  | none =>
    simp only [hsep] at hd
    cases hd
  | some i =>
  simp only [hsep] at hd
  split at hd
  · cases hd
  rename_i hi
  rw [pure_bind] at hd
  simp only [bind, Except.bind] at hd
  split at hd
  · cases hd
  rename_i dataAll hmap
  split at hd
  · rename_i hver
    cases hd
    have hlow : ∀ x ∈ (Bytes.ofString s).map lowerByte, x.toNat ≤ 126 := by
      intro x hx
      obtain ⟨y, hy, rfl⟩ := List.mem_map.mp hx
      exact lowerByte_le (h126 y hy)
    obtain ⟨hrest, h32⟩ := letters_of_mapM (fun x hx => by have := hlow x (List.mem_of_mem_drop hx); omega) hmap
      (by
        intro x hx v hv
        have hall := letterByte_of_idxOf? ⟨x.toNat, hx⟩
        split at hv
        · rename_i w hw
          cases hv
          rw [hw] at hall
          simp only [Option.all_some, Bool.and_eq_true, decide_eq_true_eq, beq_iff_eq] at hall
          exact ⟨hall.1, by rw [hall.2, UInt8.ofNat_toNat]⟩
        · cases hv)
    have hn : 6 ≤ dataAll.length := by
      have := congrArg List.length hrest
      simp only [List.length_drop, List.length_map, Bool.or_eq_true, decide_eq_true_eq, not_or] at this hi
      omega
    have hsplit := List.take_append_drop (dataAll.length - 6) dataAll
    have hck : dataAll.drop (dataAll.length - 6) = checksum ((Bytes.ofString s).map lowerByte |>.take i)
        (dataAll.take (dataAll.length - 6)) :=
      (verify_append_iff _ (fun v hv => h32 v (List.mem_of_mem_take hv)) (by simp; omega)
      (fun v hv => h32 v (List.mem_of_mem_drop hv))).mp (by rw [hsplit]; exact hver)
    refine ⟨?_, fun v hv => h32 v (List.mem_of_mem_take hv), h126⟩
    rw [ofString_encode _ (fun v hv => h32 v (List.mem_of_mem_take hv)),
      Bytes.ofString_toText_ascii (fun x hx => by have := hlow x (List.mem_of_mem_take hx); omega), ← hck,
      hsplit, ← hrest]
    exact lastSeparator_some hsep
  · cases hd

end Issuance.Text.Bech32
namespace Issuance.Address

open Text Text.Bech32

theorem letters_not_blank : ∀ v : Fin 32, isBlank (charset.getD v 'q') = false := by
  decide

theorem trim_toText (a : Address) : trim a.toText = a.toText := by
  apply Text.trim_of_not_blank
  intro c hc
  simp only [toText, bech32Of, accountPrefix, encode, toChars, String.toList_append, String.toList_ofList,
    List.mem_append, List.mem_map] at hc
  rcases hc with (hc | hc) | ⟨v, hv, rfl⟩
  · rw [show "sfx".toList = ['s', 'f', 'x'] from rfl] at hc
    simp only [List.mem_cons, List.not_mem_nil, or_false] at hc
    rcases hc with rfl | rfl | rfl <;> decide
  · rw [show "1".toList = ['1'] from rfl, List.mem_singleton] at hc
    rw [hc]
    decide
  · have hv32 : v < 32 := by
      rcases hv with hv | hv
      · exact lt_of_mem_toFive hv
      · exact checksum_lt _ _ v hv
    exact letters_not_blank ⟨v, hv32⟩

theorem length_toFive (b : Bytes) : (toFive b).length = (8 * b.length + 4) / 5 := by
  have h := congrArg List.length (flatMap_bits_toFive b)
  rw [length_flatMap_of (length_bits 5), List.length_append, List.length_replicate,
    length_flatMap_of (fun x : UInt8 => length_bits 8 x.toNat)] at h
  omega

theorem parse_toText (a : Address) : parse a.toText = .ok a := by
  have hl : (toFive a.bytes).length ≤ 80 := by rw [length_toFive, a.size]; decide
  rw [parse, trim_toText, toText, bech32Of, accountPrefix, decode, decode_encode (fun v => lt_of_mem_toFive) hl]
  simp [toEight_toFive, a.size, ofBytes?]

theorem toText_of_parse {s : String} {a : Address} (h : parse s = .ok a) : a.toText = (trim s).toLower := by
  unfold parse decode at h
  split at h
  · cases h
  rename_i hrp b hd
  split at hd
  · cases hd
  rename_i hrp' data hdec
  split at hd
  · cases hd
  rename_i b' height
  split at hd
  · rename_i h20
    cases hd
    split at h
    · rename_i hp
      rw [ofBytes?, dif_pos h20] at h
      cases h
      obtain ⟨hcanon, h32, h126⟩ := decode_canonical hdec
      apply Bytes.ofString_injective
      rw [Bytes.ofString_toLower (fun x hx => by have := h126 x hx; omega), hcanon, hp, toText, bech32Of,
        toFive_of_toEight h32 height]
    · cases h
  · cases hd

theorem addresses_read_back :
    (∀ a : Address, parse a.toText = .ok a) ∧
      ∀ (s : String) (a : Address), parse s = .ok a → a.toText = (trim s).toLower :=
  ⟨parse_toText, fun _ _ => toText_of_parse⟩

end Issuance.Address
