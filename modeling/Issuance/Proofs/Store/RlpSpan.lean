import Mathlib
import Issuance.Proofs.Store.RlpCodec
import Issuance.Proofs.Channel.IdText
/-! # What a read takes

Every read takes its bytes from the input and from the count of the list it
is in alike, so a record of flat fields read from a whole text spans a
header of at most nine bytes and the size that header declares: a text
longer than that does not decode. Where the record's fields fit, those in
front read back as written, whatever follows them. -/
namespace Issuance

theorem Bytes.lt_pow_length_ofNat (n : Nat) : n < 256 ^ (Bytes.ofNat n).length := by
  simpa using Bytes.toNat_lt (Bytes.ofNat n)

namespace Store.Rlp

/-- A shape read in one step of the stream: no list, and no fixed width. -/
def Shape.isFlat : Shape → Bool
  | .uint _ | .bool | .text _ | .blob => true
  | _ => false

/-- `s'` is `s` with `n` bytes read: gone from the input and from the count
of the innermost list, which had room for them. -/
structure Takes (n : Nat) (s s' : Stream) : Prop where
  input : s'.input.length + n = s.input.length
  lists : s'.lists = spent n s.lists
  room : Room n s.lists

theorem Takes.trans {a b : Nat} {s t u : Stream} (h1 : Takes a s t) (h2 : Takes b t u) : Takes (a + b) s u := by
  refine ⟨by have := h1.input; have := h2.input; omega, by rw [h2.lists, h1.lists, spent_spent], ?_⟩
  have hr := h2.room
  rw [h1.lists] at hr
  have ha := h1.room
  cases hl : s.lists with
  | nil => trivial
  | cons l ls =>
    simp only [hl, Room, spent] at ha hr ⊢
    omega

theorem Takes.zero (s : Stream) : Takes 0 s s := by
  refine ⟨rfl, ?_, ?_⟩ <;> cases hl : s.lists <;> simp [spent, Room]

namespace Stream

theorem take_takes {n : Nat} {s s' : Stream} {b : Bytes} (h : s.take n = .ok (b, s')) :
    Takes n s s' ∧ b.length = n := by
  obtain ⟨input, lists⟩ := s
  cases lists with
  | nil =>
    simp only [take, bind, Except.bind, pure, Except.pure] at h
    split at h
    · cases h
    · rename_i hn
      cases h
      refine ⟨⟨by simp; omega, rfl, trivial⟩, by simp; omega⟩
  | cons l ls =>
    simp only [take, bind, Except.bind, pure, Except.pure] at h
    split at h
    · cases h
    · split at h
      · cases h
      · rename_i hl hn
        cases h
        refine ⟨⟨by simp; omega, rfl, by simp only [Room]; omega⟩, by simp; omega⟩

theorem sizeField_takes {n m : Nat} {s s' : Stream} (h : s.sizeField n = .ok (m, s')) : Takes n s s' ∧ m < 256 ^ n := by
  unfold sizeField at h
  cases ht : s.take n with
  | error e => simp [ht, bind, Except.bind] at h
  | ok p =>
    obtain ⟨v, r⟩ := p
    obtain ⟨htk, hv⟩ := take_takes ht
    simp only [ht, bind, Except.bind] at h
    split at h
    · cases h
    · simp only [pure, Except.pure, Except.ok.injEq, Prod.mk.injEq] at h
      obtain ⟨rfl, rfl⟩ := h
      exact ⟨htk, hv ▸ Bytes.toNat_lt v⟩

theorem sizeField_lt {m n : Nat} {r s' : Stream} (hm : m ≤ 8) (h : r.sizeField m = .ok (n, s')) :
    Takes m r s' ∧ n < 2 ^ 64 := by
  obtain ⟨ht, hn⟩ := sizeField_takes h
  refine ⟨ht, lt_of_lt_of_le hn ?_⟩
  calc 256 ^ m ≤ 256 ^ 8 := Nat.pow_le_pow_right (by norm_num) hm
    _ = 2 ^ 64 := by norm_num

theorem header_takes {s s' : Stream} {k : Kind} (h : s.header = .ok (k, s')) :
    ∃ n ≤ 9, Takes n s s' ∧ k.size < 2 ^ 64 := by
  unfold header at h
  cases ht : s.take 1 with
  | error e => simp [ht, bind, Except.bind] at h
  | ok p =>
    obtain ⟨b, r⟩ := p
    obtain ⟨h1, hb⟩ := take_takes ht
    obtain ⟨x, rfl⟩ := List.length_eq_one_iff.mp hb
    have hx : x.toNat < 256 := x.toNat_lt
    simp only [ht, bind, Except.bind, pure, Except.pure] at h
    split_ifs at h with c1 c2 c3 c4
    · cases h
      exact ⟨1, by omega, h1, by simp [Kind.size]⟩
    · cases h
      exact ⟨1, by omega, h1, by simp only [Kind.size]; omega⟩
    · have c3 : x.toNat < 192 := by simpa [UInt8.lt_iff_toNat_lt] using c3
      cases hs : r.sizeField (x.toNat - 183) with
      | error e => simp [hs] at h
      | ok v =>
        obtain ⟨n, r'⟩ := v
        obtain ⟨h2, hn⟩ := sizeField_lt (by omega) hs
        simp only [hs] at h
        split at h
        · cases h
        · cases h
          exact ⟨1 + (x.toNat - 183), by omega, h1.trans h2, hn⟩
    · cases h
      exact ⟨1, by omega, h1, by simp only [Kind.size]; omega⟩
    · cases hs : r.sizeField (x.toNat - 247) with
      | error e => simp [hs] at h
      | ok v =>
        obtain ⟨n, r'⟩ := v
        obtain ⟨h2, hn⟩ := sizeField_lt (by omega) hs
        simp only [hs] at h
        split at h
        · cases h
        · cases h
          exact ⟨1 + (x.toNat - 247), by omega, h1.trans h2, hn⟩

theorem header_of_kind {s s' : Stream} {k : Kind} (h : s.kind = .ok (k, s')) : s.header = .ok (k, s') := by
  unfold kind at h
  by_cases h0 : s.lists.head? = some 0
  · simp [h0, throw, throwThe, MonadExceptOf.throw, bind, Except.bind] at h
  cases hh : s.header with
  | error e => simp [h0, hh, bind, Except.bind] at h
  | ok p =>
    obtain ⟨k', r⟩ := p
    simp only [h0, hh, if_false, bind, Except.bind, pure, Except.pure, throw, throwThe, MonadExceptOf.throw] at h
    repeat' split at h
    all_goals first | exact h | cases h

theorem kind_takes {s s' : Stream} {k : Kind} (h : s.kind = .ok (k, s')) :
    ∃ n ≤ 9, Takes n s s' ∧ k.size < 2 ^ 64 :=
  header_takes (header_of_kind h)

theorem uint_takes {bits v : Nat} {s s' : Stream} (h : s.uint bits = .ok (v, s')) : ∃ n, Takes n s s' := by
  unfold uint at h
  cases hk : s.kind with
  | error e => simp [hk, bind, Except.bind] at h
  | ok p =>
    obtain ⟨k, r⟩ := p
    obtain ⟨a, -, ha, -⟩ := kind_takes hk
    simp only [hk, bind, Except.bind, pure, Except.pure, throw, throwThe, MonadExceptOf.throw] at h
    cases k with
    | byte x =>
      dsimp only at h
      split at h
      · cases h
      · cases h
        exact ⟨a, ha⟩
    | str n =>
      dsimp only at h
      split at h
      · cases h
      cases ht : r.take n with
      | error e => simp [ht] at h
      | ok q =>
        obtain ⟨b, r'⟩ := q
        simp only [ht] at h
        repeat' split at h
        all_goals first | (cases h; exact ⟨a + n, ha.trans (take_takes ht).1⟩) | cases h
    | list n => cases h

theorem bytes_takes {v : Bytes} {s s' : Stream} (h : s.bytes = .ok (v, s')) : ∃ n, Takes n s s' := by
  unfold bytes at h
  cases hk : s.kind with
  | error e => simp [hk, bind, Except.bind] at h
  | ok p =>
    obtain ⟨k, r⟩ := p
    obtain ⟨a, -, ha, -⟩ := kind_takes hk
    simp only [hk, bind, Except.bind, pure, Except.pure, throw, throwThe, MonadExceptOf.throw] at h
    cases k with
    | byte x =>
      cases h
      exact ⟨a, ha⟩
    | str n =>
      dsimp only at h
      cases ht : r.take n with
      | error e => simp [ht] at h
      | ok q =>
        obtain ⟨b, r'⟩ := q
        simp only [ht] at h
        repeat' split at h
        all_goals first | (cases h; exact ⟨a + n, ha.trans (take_takes ht).1⟩) | cases h
    | list n => cases h

end Stream

theorem lowIn_ok {α : Type} {t : String} {r : Except Low α} {a : α} (h : lowIn t r = .ok a) : r = .ok a := by
  cases r <;> simp_all [lowIn]

theorem lowAsIs_ok {α : Type} {r : Except Low α} {a : α} (h : lowAsIs r = .ok a) : r = .ok a := by
  cases r <;> simp_all [lowAsIs]

theorem readValue_takes {fuel : Nat} {shape : Shape} {s s' : Stream} {v : Value} (hf : shape.isFlat = true)
    (h : readValue fuel shape s = .ok (v, s')) : ∃ n, Takes n s s' := by
  cases fuel with
  | zero => simp [readValue] at h
  | succ fuel =>
    cases shape with
    | uint bits =>
      simp only [readValue, bind, Except.bind] at h
      split at h
      · cases h
      · rename_i p hp
        cases h
        exact Stream.uint_takes (lowIn_ok hp)
    | bool =>
      simp only [readValue, bind, Except.bind] at h
      split at h
      · cases h
      · rename_i p hp
        have ht := Stream.uint_takes (lowIn_ok hp)
        simp only [pure, Except.pure, throw, throwThe, MonadExceptOf.throw] at h
        split_ifs at h <;> (cases h; exact ht)
    | text name | blob =>
      simp only [readValue, bind, Except.bind] at h
      split at h
      · cases h
      · rename_i p hp
        cases h
        exact Stream.bytes_takes (lowIn_ok hp)
    | fixed n name | seq elem name | record name fields => simp [Shape.isFlat] at hf

theorem readFields_takes {fuel : Nat} {name : String} {fields : List (String × Shape)} {s s' : Stream}
    {vs : List Value} (hf : fields.all (fun p => p.2.isFlat) = true) (h : readFields fuel name fields s = .ok (vs, s')) :
    ∃ n, Takes n s s' := by
  induction fields generalizing fuel s vs with
  | nil =>
    cases fuel with
    | zero => simp [readFields] at h
    | succ fuel =>
      simp only [readFields, Except.ok.injEq, Prod.mk.injEq] at h
      obtain ⟨-, rfl⟩ := h
      exact ⟨0, Takes.zero s⟩
  | cons f fs ih =>
    obtain ⟨fname, shape⟩ := f
    simp only [List.all_cons, Bool.and_eq_true] at hf
    cases fuel with
    | zero => simp [readFields] at h
    | succ fuel =>
      simp only [readFields] at h
      split at h
      · cases h
      · cases h
      · rename_i v r hr
        cases hrest : readFields fuel name fs r with
        | error e => simp [hrest, Except.map] at h
        | ok q =>
          obtain ⟨vs', r'⟩ := q
          simp only [hrest, Except.map, Except.ok.injEq, Prod.mk.injEq] at h
          obtain ⟨-, rfl⟩ := h
          obtain ⟨a, ha⟩ := readValue_takes hf.1 hr
          obtain ⟨b, hb⟩ := ih hf.2 hrest
          exact ⟨a + b, ha.trans hb⟩

theorem enter_top {b : Bytes} {n : Nat} {s : Stream} (h : Stream.enter ⟨b, []⟩ = .ok (n, s)) :
    ∃ a ≤ 9, s.lists = [n] ∧ s.input.length + a = b.length ∧ n < 2 ^ 64 := by
  unfold Stream.enter at h
  cases hk : Stream.kind ⟨b, []⟩ with
  | error e => simp [hk, bind, Except.bind] at h
  | ok p =>
    obtain ⟨k, r⟩ := p
    obtain ⟨a, ha9, ha, hsz⟩ := Stream.kind_takes hk
    simp only [hk, bind, Except.bind, pure, Except.pure, throw, throwThe, MonadExceptOf.throw] at h
    cases k with
    | list m =>
      have hr : r.lists = [] := by rw [ha.lists]; rfl
      simp only [hr, Except.ok.injEq, Prod.mk.injEq] at h
      obtain ⟨rfl, rfl⟩ := h
      exact ⟨a, ha9, rfl, ha.input, hsz⟩
    | byte x => cases h
    | str m => cases h

/-- A record of flat fields decodes only from a text that its header and the
size the header declares span, so from fewer than `2 ^ 64 + 9` bytes. -/
theorem decode_record_length {name : String} {fields : List (String × Shape)} {b : Bytes} {v : Value}
    (hf : fields.all (fun p => p.2.isFlat) = true) (h : decode (.record name fields) b = .ok v) :
    b.length < 2 ^ 64 + 9 := by
  unfold decode at h
  split at h
  · cases h
  · cases h
  rename_i v' s hr
  split at h
  swap
  · cases h
  rename_i hs
  simp only [readValue, bind, Except.bind] at hr
  split at hr
  · cases hr
  rename_i p hp
  obtain ⟨n, s1⟩ := p
  obtain ⟨a, ha9, hl1, hi1, hn⟩ := enter_top (lowIn_ok hp)
  split at hr
  · cases hr
  rename_i q hq
  obtain ⟨vs, s2⟩ := q
  obtain ⟨m, hm⟩ := readFields_takes hf hq
  split at hr
  · cases hr
  rename_i s3 hs3
  simp only [pure, Except.pure, Except.ok.injEq, Prod.mk.injEq] at hr
  obtain ⟨-, rfl⟩ := hr
  -- leaving the list needs its count spent, so the fields took all `n` bytes
  have hl2 : s2.lists = [n - m] := by rw [hm.lists, hl1]; rfl
  have hroom : m ≤ n := by have := hm.room; rw [hl1] at this; exact this
  have hleave := lowIn_ok hs3
  simp only [Stream.leave, hl2] at hleave
  split at hleave
  · cases hleave
  rename_i hz
  simp only [Except.ok.injEq] at hleave
  subst hleave
  have hempty : s2.input = [] := by simpa using hs
  have := hm.input
  rw [hempty] at this
  simp at this
  omega

theorem readFields_readsBack {fuel : Nat} {name f : String} {shape : Shape} {fs : List (String × Shape)} {v : Value}
    (hv : ReadsBack shape v) (hfuel : FuelFor v fuel) {rest : Bytes} {lists : List Nat}
    (hr : Room (encode v).length lists) :
    readFields (fuel + 1) name ((f, shape) :: fs) ⟨encode v ++ rest, lists⟩ =
      (readFields fuel name fs ⟨rest, spent (encode v).length lists⟩).map fun p => (v :: p.1, p.2) := by
  simp only [readFields, hv fuel hfuel rest lists hr]

theorem readFields_prefix {name : String} {fields : List (String × Shape)} {pre : List (String × Shape)}
    {vs : List Value} {fuel : Nat} {rest : Bytes} {lists : List Nat} {ws : List Value} {s' : Stream}
    (hl : pre.length = vs.length) (hv : ∀ p ∈ pre.zip vs, Fits p.1.2 p.2)
    (hfuel : 2 * (encodeAll vs).length + 2 ≤ fuel) (hr : Room (encodeAll vs).length lists)
    (h : readFields fuel name (pre ++ fields) ⟨encodeAll vs ++ rest, lists⟩ = .ok (ws, s')) : ∃ ws', ws = vs ++ ws' := by
  induction pre generalizing vs fuel lists ws s' with
  | nil =>
    rw [List.eq_nil_of_length_eq_zero hl.symm]
    exact ⟨ws, rfl⟩
  | cons fd pre ih =>
    obtain ⟨v, vs, rfl⟩ := List.exists_cons_of_length_eq_add_one hl.symm
    obtain ⟨f, shape⟩ := fd
    have hlen : (encodeAll (v :: vs)).length = (encode v).length + (encodeAll vs).length := by
      simp [encodeAll_cons]
    have hpos := length_encode_pos v
    rw [hlen] at hfuel hr
    obtain ⟨fuel, rfl⟩ : ∃ f, fuel = f + 1 := ⟨fuel - 1, by omega⟩
    have hfv : FuelFor v fuel := by show 2 * (encode v).length + 1 ≤ fuel; omega
    have hfit : Fits shape v := hv ((f, shape), v) (List.mem_cons_self ..)
    rw [List.cons_append, encodeAll_cons, List.append_assoc,
      readFields_readsBack (readsBack hfit) hfv (hr.mono (by omega))] at h
    cases hrest : readFields fuel name (pre ++ fields) ⟨encodeAll vs ++ rest, spent (encode v).length lists⟩ with
    | error e => simp [hrest, Except.map] at h
    | ok q =>
      obtain ⟨us, t⟩ := q
      simp only [hrest, Except.map, Except.ok.injEq, Prod.mk.injEq] at h
      obtain ⟨rfl, -⟩ := h
      obtain ⟨ws', rfl⟩ := ih (by simpa using hl) (fun p hp => hv p (List.mem_cons_of_mem _ hp)) (by omega)
        (Room.spent hr) hrest
      exact ⟨ws', rfl⟩

theorem encodeAll_append (vs ws : List Value) : encodeAll (vs ++ ws) = encodeAll vs ++ encodeAll ws := by
  induction vs with
  | nil => simp [encodeAll]
  | cons v vs ih => simp [encodeAll_cons, ih]

/-- A record whose size a header can declare decodes, if at all, with the
fields in front that fit their shapes as written. -/
theorem decode_record_prefix {name : String} {fields : List (String × Shape)} {vs rest : List Value} {v : Value}
    (hl : vs.length ≤ fields.length) (hv : ∀ p ∈ fields.zip vs, Fits p.1.2 p.2)
    (hn : (Bytes.ofNat (encodeAll (vs ++ rest)).length).length ≤ 8)
    (h : decode (.record name fields) (encode (.items (vs ++ rest))) = .ok v) : ∃ ws, v = .items (vs ++ ws) := by
  have hzip : (fields.take vs.length).zip vs = fields.zip vs := by
    conv_rhs => rw [List.zip_eq_zip_take_min, min_eq_right hl, List.take_length]
  rw [← List.take_append_drop vs.length fields] at h
  unfold decode at h
  split at h
  · cases h
  · cases h
  rename_i v' s hr
  split at h
  swap
  · cases h
  cases h
  have henter := @Stream.enter_items _ [] [] hn trivial
  rw [List.append_nil, ← encode_items] at henter
  simp only [readValue, bind, Except.bind, henter, lowIn] at hr
  split at hr
  · cases hr
  rename_i q hq
  obtain ⟨us, t⟩ := q
  have hpos := length_header_pos 192 (encodeAll (vs ++ rest)).length
  have hlen : (encode (.items (vs ++ rest))).length =
      (header 192 (encodeAll (vs ++ rest)).length).length + (encodeAll vs).length + (encodeAll rest).length := by
    rw [encode_items, encodeAll_append]
    simp only [List.length_append]
    omega
  rw [spent, encodeAll_append] at hq
  obtain ⟨ws, rfl⟩ := readFields_prefix (by simp [hl]) (hzip ▸ hv) (by omega)
    (by simp only [Room, List.length_append]; omega) hq
  split at hr
  · cases hr
  simp only [pure, Except.pure, Except.ok.injEq, Prod.mk.injEq] at hr
  exact ⟨ws, hr.1.symm⟩

end Store.Rlp

end Issuance
