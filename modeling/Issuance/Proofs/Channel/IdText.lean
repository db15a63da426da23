import Mathlib
import Issuance.Channel.Id
import Issuance.Proofs.Store.RlpCodec
import Issuance.Proofs.Text.Trim
/-! # Channel identifiers as text

Base58 text reads back as the bytes it was written from, and text of
base-58 digits is the text of what it reads as. So an identifier's text
parses to it, and a parsed identifier's text is the trimmed input. -/
namespace Issuance

section
variable {α : Type} [DecidableEq α] {a : α}

theorem replicate_append_dropWhile (l : List α) :
    List.replicate (l.takeWhile (· = a)).length a ++ l.dropWhile (· = a) = l ∧
      (l.dropWhile (· = a)).head? ≠ some a := by
  have hrep : l.takeWhile (· = a) = List.replicate (l.takeWhile (· = a)).length a :=
    List.eq_replicate_iff.mpr ⟨rfl, fun b hb => by simpa using List.mem_takeWhile_imp hb⟩
  refine ⟨by rw [← hrep, List.takeWhile_append_dropWhile], fun h => ?_⟩
  obtain ⟨t, ht⟩ := List.head?_eq_some_iff.mp h
  have := List.head_dropWhile_not (· = a) (l := l) (by simp [ht])
  simp [ht] at this

theorem takeWhile_replicate_append (z : Nat) {l : List α} (h : l.head? ≠ some a) :
    (List.replicate z a ++ l).takeWhile (· = a) = List.replicate z a := by
  induction z with
  | zero =>
    cases l with
    | nil => rfl
    | cons b l => simp_all
  | succ z ih => simp [List.replicate_succ, ih]

end

namespace Bytes

theorem toNat_lt (b : Bytes) : toNat b < 256 ^ b.length := by
  induction b with
  | nil => simp [toNat]
  | cons x xs ih =>
    rw [toNat_cons, List.length_cons, pow_succ]
    have hx : x.toNat ≤ 255 := by have := x.toNat_lt; omega
    nlinarith

theorem toNat_append (a b : Bytes) : toNat (a ++ b) = toNat a * 256 ^ b.length + toNat b := by
  rw [toNat, List.foldl_append, foldl_toNat]
  rfl

theorem toNat_replicate_zero (z : Nat) : toNat (List.replicate z 0) = 0 := by
  induction z with
  | zero => rfl
  | succ z ih => rw [List.replicate_succ, toNat_cons, ih]; simp

theorem eq_of_toNat_eq {b c : Bytes} (hl : b.length = c.length) (h : toNat b = toNat c) : b = c := by
  induction b generalizing c with
  | nil => exact (List.length_eq_zero_iff.mp hl.symm).symm
  | cons x xs ih =>
    obtain ⟨y, ys, rfl⟩ := List.exists_cons_of_length_eq_add_one hl.symm
    simp only [List.length_cons, Nat.add_right_cancel_iff] at hl
    rw [toNat_cons, toNat_cons, hl] at h
    have hxs := toNat_lt xs
    have hys := toNat_lt ys
    rw [hl] at hxs
    have hpos : 0 < 256 ^ ys.length := by positivity
    -- the leading bytes are the quotients by the weight of the rest, the rests the remainders
    have hdiv : ∀ a t, t < 256 ^ ys.length → (a * 256 ^ ys.length + t) / 256 ^ ys.length = a := by
      intro a t ht
      rw [add_comm, Nat.add_mul_div_right _ _ hpos, Nat.div_eq_of_lt ht, zero_add]
    have hmod : ∀ a t, t < 256 ^ ys.length → (a * 256 ^ ys.length + t) % 256 ^ ys.length = t := by
      intro a t ht
      rw [add_comm, Nat.add_mul_mod_self_right, Nat.mod_eq_of_lt ht]
    have hq : x.toNat = y.toNat := by rw [← hdiv x.toNat _ hxs, h, hdiv _ _ hys]
    have hr : toNat xs = toNat ys := by rw [← hmod x.toNat _ hxs, h, hmod _ _ hys]
    rw [UInt8.toNat_inj.mp hq, ih hl hr]

theorem pow_le_toNat {x : UInt8} (hx : x ≠ 0) (xs : Bytes) : 256 ^ xs.length ≤ toNat (x :: xs) := by
  rw [toNat_cons]
  have : 1 ≤ x.toNat := Nat.one_le_iff_ne_zero.mpr fun h => hx (UInt8.toNat_inj.mp h)
  calc 256 ^ xs.length = 1 * 256 ^ xs.length := (one_mul _).symm
    _ ≤ x.toNat * 256 ^ xs.length := Nat.mul_le_mul_right _ this
    _ ≤ _ := Nat.le_add_right _ _

theorem ofNat_toNat {b : Bytes} (hb : b.head? ≠ some 0) : ofNat (toNat b) = b := by
  -- both sides have no leading zero; the longer one would have the larger number
  have hlen : ∀ {c d : Bytes}, c.head? ≠ some 0 → toNat c = toNat d → c.length ≤ d.length := by
    intro c d hc h
    cases c with
    | nil => simp
    | cons x xs =>
      by_contra hlt
      have h1 := pow_le_toNat (fun h0 => hc (h0 ▸ rfl)) xs
      have h2 : 256 ^ d.length ≤ 256 ^ xs.length := Nat.pow_le_pow_right (by norm_num) (by simp at hlt; omega)
      have := toNat_lt d
      omega
  have h := toNat_ofNat (toNat b)
  exact eq_of_toNat_eq (le_antisymm (hlen (head?_ofNat _) h) (hlen hb h.symm)) h

end Bytes

end Issuance

namespace Issuance.Text.Base58

theorem digits_eq (n : Nat) : digits n = (Nat.digits 58 n).reverse := by
  induction n using Nat.strong_induction_on with
  | _ n ih =>
    rw [digits]
    split
    · rename_i h
      simp [h]
    · rename_i h
      rw [Nat.digits_def' (by norm_num) (Nat.pos_of_ne_zero h), ih (n / 58) (by omega)]
      simp

theorem ofDigits_eq (ds : List Nat) : ofDigits ds = Nat.ofDigits 58 ds.reverse := by
  rw [ofDigits, List.foldl_eq_foldr_reverse, Nat.ofDigits_eq_foldr]
  congr 1
  funext x y
  simp only [Nat.cast_id]
  ring

@[simp] theorem ofDigits_digits (n : Nat) : ofDigits (digits n) = n := by
  rw [ofDigits_eq, digits_eq, List.reverse_reverse, Nat.ofDigits_digits]

theorem ofDigits_replicate_zero (z : Nat) (ds : List Nat) : ofDigits (List.replicate z 0 ++ ds) = ofDigits ds := by
  rw [ofDigits, List.foldl_append]
  have : List.foldl (fun acc d => acc * 58 + d) 0 (List.replicate z 0) = 0 := by
    induction z with
    | zero => rfl
    | succ z ih => rw [List.replicate_succ', List.foldl_append, ih]; rfl
  rw [this]
  rfl

theorem digits_ofDigits {ds : List Nat} (h : ∀ d ∈ ds, d < 58) (h0 : ds.head? ≠ some 0) :
    digits (ofDigits ds) = ds := by
  rw [ofDigits_eq, digits_eq, Nat.digits_ofDigits 58 (by norm_num) _ (by simpa using h), List.reverse_reverse]
  intro hne
  rw [List.getLast_reverse]
  intro hz
  exact h0 (by rw [List.head?_eq_some_head (by simpa using hne), hz])

theorem head?_digits (n : Nat) : (digits n).head? ≠ some 0 := by
  rw [digits_eq, List.head?_reverse]
  by_cases hn : n = 0
  · simp [hn]
  · rw [List.getLast?_eq_some_getLast (Nat.digits_ne_nil_iff_ne_zero.mpr hn), Ne, Option.some_inj]
    exact Nat.getLast_digit_ne_zero 58 hn

theorem digits_lt (n : Nat) : ∀ d ∈ digits n, d < 58 := by
  intro d hd
  rw [digits_eq, List.mem_reverse] at hd
  exact Nat.digits_lt_base (by norm_num) hd

theorem digitValue_digitChar : ∀ d < 58, digitValue (digitChar d) = some d := by decide

theorem digitChar_eq_one : ∀ d < 58, (digitChar d = '1') = (d = 0) := by decide

theorem isBlank_digitChar : ∀ d < 58, isBlank (digitChar d) = false := by decide +kernel

theorem digitChar_of_digitValue {c : Char} {d : Nat} (h : digitValue c = some d) : digitChar d = c ∧ d < 58 := by
  obtain ⟨hlt, hc, -⟩ := List.idxOf?_eq_some_iff.mp h
  exact ⟨by rw [digitChar, List.getD_eq_getElem _ _ hlt, hc], hlt⟩

theorem mapM_digitValue {ds : List Nat} (h : ∀ d ∈ ds, d < 58) : (ds.map digitChar).mapM digitValue = some ds := by
  induction ds with
  | nil => rfl
  | cons d ds ih =>
    simp only [List.forall_mem_cons] at h
    simp [List.mapM_cons, digitValue_digitChar d h.1, ih h.2]

theorem eq_map_of_mapM {cs : List Char} {ds : List Nat} (h : cs.mapM digitValue = some ds) :
    cs = ds.map digitChar ∧ ∀ d ∈ ds, d < 58 := by
  induction cs generalizing ds with
  | nil => simp_all
  | cons c cs ih =>
    simp only [List.mapM_cons, Option.bind_eq_bind, Option.bind_eq_some_iff, Option.pure_def, Option.some.injEq] at h
    obtain ⟨d, hd, r, hr, rfl⟩ := h
    obtain ⟨hc, hlt⟩ := digitChar_of_digitValue hd
    obtain ⟨rfl, hrest⟩ := ih hr
    exact ⟨by simp [hc], fun x hx => (List.mem_cons.mp hx).elim (· ▸ hlt) (hrest x)⟩

theorem takeWhile_map_digitChar {ds : List Nat} (h : ∀ d ∈ ds, d < 58) :
    ((ds.map digitChar).takeWhile (· = '1')).length = (ds.takeWhile (· = 0)).length := by
  induction ds with
  | nil => rfl
  | cons d ds ih =>
    simp only [List.forall_mem_cons] at h
    simp only [List.map_cons, List.takeWhile_cons, digitChar_eq_one d h.1]
    split <;> simp [ih h.2]

theorem encode_replicate_append (z : Nat) {r : Bytes} (h : r.head? ≠ some 0) :
    encode (List.replicate z 0 ++ r) = String.ofList ((List.replicate z 0 ++ digits (Bytes.toNat r)).map digitChar) := by
  rw [encode, takeWhile_replicate_append z h, Bytes.toNat_append, Bytes.toNat_replicate_zero]
  simp
  rfl

theorem decode_replicate_append (z : Nat) {ds : List Nat} (h : ∀ d ∈ ds, d < 58) (h0 : ds.head? ≠ some 0) :
    decode (String.ofList ((List.replicate z 0 ++ ds).map digitChar)) = List.replicate z 0 ++ Bytes.ofNat (ofDigits ds) := by
  have hds : ∀ d ∈ List.replicate z 0 ++ ds, d < 58 := by
    intro d hd
    rcases List.mem_append.mp hd with hd | hd
    · rw [List.eq_of_mem_replicate hd]; norm_num
    · exact h d hd
  simp only [decode, String.toList_ofList, mapM_digitValue hds, takeWhile_map_digitChar hds,
    takeWhile_replicate_append z h0, List.length_replicate, ofDigits_replicate_zero]

theorem decode_encode (b : Bytes) : decode (encode b) = b := by
  obtain ⟨hb, hb0⟩ := replicate_append_dropWhile (a := (0 : UInt8)) b
  rw [← hb, encode_replicate_append _ hb0, decode_replicate_append _ (digits_lt _) (head?_digits _),
    ofDigits_digits, Bytes.ofNat_toNat hb0]

theorem encode_decode {s : String} (h : s.toList.mapM digitValue ≠ none) : encode (decode s) = s := by
  obtain ⟨ds, hds⟩ := Option.ne_none_iff_exists'.mp h
  obtain ⟨hcs, hlt⟩ := eq_map_of_mapM hds
  obtain ⟨hsplit, h0⟩ := replicate_append_dropWhile (a := 0) ds
  have hrest : ∀ d ∈ ds.dropWhile (· = 0), d < 58 := fun d hd => hlt d ((List.dropWhile_suffix _).subset hd)
  have hs : s = String.ofList ((List.replicate (ds.takeWhile (· = 0)).length 0 ++ ds.dropWhile (· = 0)).map digitChar) := by
    rw [hsplit, ← hcs, String.ofList_toList]
  rw [hs, decode_replicate_append _ hrest h0, encode_replicate_append _ (Bytes.head?_ofNat _), Bytes.toNat_ofNat,
    digits_ofDigits hrest h0]

end Issuance.Text.Base58

namespace Issuance

theorem Text.trim_of_not_blank {s : String} (h : ∀ c ∈ s.toList, Text.isBlank c = false) : Text.trim s = s := by
  have hd : s.toList.dropWhile Text.isBlank = s.toList :=
    List.dropWhile_eq_self_iff.mpr fun hl => by simp [h _ (List.getElem_mem hl)]
  have hr : s.toList.rdropWhile Text.isBlank = s.toList :=
    List.rdropWhile_eq_self_iff.mpr fun hl => by simp [h _ (List.getLast_mem hl)]
  rw [Text.trim, Text.trimChars_eq, hd, hr, String.ofList_toList]

namespace ChannelId

open Text.Base58

theorem trim_toText (c : ChannelId) : Text.trim c.toText = c.toText := by
  apply Text.trim_of_not_blank
  obtain ⟨hb, hb0⟩ := replicate_append_dropWhile (a := (0 : UInt8)) c.bytes
  have hds : ∀ d ∈ List.replicate (c.bytes.takeWhile (· = 0)).length 0 ++ digits (Bytes.toNat (c.bytes.dropWhile (· = 0))), d < 58 := by
    intro d hd
    rcases List.mem_append.mp hd with hd | hd
    · rw [List.eq_of_mem_replicate hd]; norm_num
    · exact digits_lt _ d hd
  rw [toText, ← hb, encode_replicate_append _ hb0, String.toList_ofList]
  intro ch hch
  obtain ⟨d, hd, rfl⟩ := List.mem_map.mp hch
  exact isBlank_digitChar d (hds d hd)

theorem parse_toText (c : ChannelId) : parse c.toText = .ok c := by
  rw [parse, trim_toText, toText, decode_encode]
  simp [ofBytes?, c.size]

theorem toText_of_parse {raw : String} {c : ChannelId} (h : parse raw = .ok c) : c.toText = Text.trim raw := by
  have hc : ofBytes? (decode (Text.trim raw)) = some c := by
    unfold parse at h
    split at h
    · rename_i c' hc'
      cases h
      exact hc'
    · cases h
  have hb : c.bytes = decode (Text.trim raw) := by
    unfold ofBytes? at hc
    split at hc
    · rw [← Option.some.inj hc]
    · cases hc
  -- a text with a character outside the alphabet reads as no bytes, not as thirty-two
  have hdig : (Text.trim raw).toList.mapM digitValue ≠ none := by
    intro hn
    have h0 : decode (Text.trim raw) = [] := by rw [decode, hn]
    have := c.size
    rw [hb, h0] at this
    cases this
  rw [toText, hb, encode_decode hdig]

theorem identifiers_read_back :
    (∀ c : ChannelId, parse c.toText = .ok c) ∧
      ∀ (raw : String) (c : ChannelId), parse raw = .ok c → c.toText = Text.trim raw :=
  ⟨parse_toText, fun _ _ => toText_of_parse⟩

end ChannelId

end Issuance
