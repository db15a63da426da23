import Mathlib
import Issuance.Proofs.Api.Configure
import Issuance.Proofs.Engine.Quotes
/-! # The history of the feed registry

Registry calls, through the engine or directly, run in turn; a refused call
commits nothing. The accepted calls describe every feed: created once with
at most 19 decimals, rounds at times that never go back, and reads giving
the last answer as given. The record follows call by call (`Faithful`). -/
namespace Issuance

open Store Txn

namespace Feed

/-- A call to the registry, through the engine or directly. -/
inductive Call
  | create (viaEngine : Bool) (id description : String) (decimals : Nat)
  | submit (viaEngine : Bool) (id : String) (answer time : Int)

/-- The store a transaction commits on `S`; none when it is refused. -/
def committed {α : Type} (S : Store) (m : Txn α) : Option Store :=
  (atomic { store := S } m).toOption.map fun p => p.2.store

/-- The store a call commits on `S`, if it is accepted. -/
def Call.accept (S : Store) : Call → Option Store
  | .create true id d n => committed S (Engine.createFeed id d n)
  | .create false id d n => committed S (Api.feedCall (Feed.create id d n))
  | .submit true id a t => committed S (Engine.submitRound t id a)
  | .submit false id a t => committed S (Api.feedCall (Feed.submit id a t))

/-- A call on the store and the calls accepted so far. -/
def Call.step (s : Store × List Call) (c : Call) : Store × List Call :=
  match c.accept s.1 with
  | some S' => (S', s.2 ++ [c])
  | none => s

/-- The store and the accepted calls after `cs`, from the empty store. -/
def history (cs : List Call) : Store × List Call := cs.foldl Call.step ({}, [])

/-- Arguments as a request carries them: short texts, and a signed 64-bit
answer and time. -/
def Call.Typed : Call → Prop
  | .create _ id d _ => Text.Short id ∧ Text.Short d
  | .submit _ _ a t => -2 ^ 63 ≤ a ∧ a < 2 ^ 63 ∧ t < 2 ^ 63

/-- The description and decimals a call creates the feed `k` with. -/
def Call.creation (k : String) : Call → Option (String × Nat)
  | .create _ id d n => if Text.trim id = k then some (Text.trim d, n) else none
  | .submit .. => none

/-- The answer and time a call submits to the feed `k`. -/
def Call.round (k : String) : Call → Option (Int × Int)
  | .submit _ id a t => if Text.trim id = k then some (a, t) else none
  | .create .. => none

/-- The accepted creations of the feed `k`. -/
def creations (k : String) (acc : List Call) : List (String × Nat) := acc.filterMap (Call.creation k)

/-- The accepted rounds of the feed `k`, in order. -/
def rounds (k : String) (acc : List Call) : List (Int × Int) := acc.filterMap (Call.round k)

/-- The feed `k` as the accepted calls describe it: as created, with the
last of its rounds, numbered by their count. -/
def feedOf (k : String) (acc : List Call) : Option PriceFeed :=
  (creations k acc).head?.map fun p =>
    ⟨k, p.1, p.2, (rounds k acc).getLast?.map fun r => ⟨(rounds k acc).length, r.1, p.2, r.2⟩⟩

/-- The record the accepted calls leave for the feed `k`. -/
def storedOf (k : String) (acc : List Call) : Option Stored :=
  (creations k acc).head?.map fun p =>
    ⟨k, p.1, p.2, (rounds k acc).length, magnitudeOf ((rounds k acc).getLast?.getD (0, 0)).1,
      decide (((rounds k acc).getLast?.getD (0, 0)).1 < 0), ((rounds k acc).getLast?.getD (0, 0)).2.toNat⟩

/-- The feed a call addresses: its trimmed id. -/
def Call.feed : Call → String
  | .create _ id _ _ | .submit _ id _ _ => Text.trim id

/-- The store holds what the accepted calls describe for feed `k`: created
at most once, with at most 19 decimals, its rounds after it in time order. -/
structure Faithful (L : Bytes → Option Bytes) (acc : List Call) (k : String) : Prop where
  stored : recordAt shape storedOfValue L (key k) = storedOf k acc
  once : (creations k acc).length ≤ 1
  created : ∀ p ∈ creations k acc, k ≠ "" ∧ Text.Short k ∧ Text.Short p.1 ∧ p.2 ≤ Amount.maxDecimals
  opened : creations k acc = [] → rounds k acc = []
  ordered : (rounds k acc).Pairwise fun r r' => r.2 ≤ r'.2
  typed : ∀ r ∈ rounds k acc, -2 ^ 63 ≤ r.1 ∧ r.1 < 2 ^ 63 ∧ 0 ≤ r.2 ∧ r.2 < 2 ^ 63

section
variable {k : String} {acc : List Call} {c : Call}

theorem creations_append_single : creations k (acc ++ [c]) = creations k acc ++ (c.creation k).toList := by
  rw [creations, creations, List.filterMap_append]
  cases h : c.creation k <;> simp [h]

theorem rounds_append_single : rounds k (acc ++ [c]) = rounds k acc ++ (c.round k).toList := by
  rw [rounds, rounds, List.filterMap_append]
  cases h : c.round k <;> simp [h]

theorem storedOf_eq_none : storedOf k acc = none ↔ creations k acc = [] := by
  simp [storedOf]

theorem Call.creation_other (h : c.feed ≠ k) : c.creation k = none := by
  cases c <;> simp_all [Call.feed, Call.creation]

theorem Call.round_other (h : c.feed ≠ k) : c.round k = none := by
  cases c <;> simp_all [Call.feed, Call.round]

theorem creations_other (h : c.feed ≠ k) : creations k (acc ++ [c]) = creations k acc := by
  simp [creations_append_single, Call.creation_other h]

theorem rounds_other (h : c.feed ≠ k) : rounds k (acc ++ [c]) = rounds k acc := by
  simp [rounds_append_single, Call.round_other h]

theorem Faithful.other {L L' : Bytes → Option Bytes} (hI : Faithful L acc k) (h : c.feed ≠ k)
    (hL : L' (key k) = L (key k)) : Faithful L' (acc ++ [c]) k := by
  have hrec : recordAt shape storedOfValue L' (key k) = recordAt shape storedOfValue L (key k) := by
    unfold recordAt
    rw [hL]
  have hs : storedOf k (acc ++ [c]) = storedOf k acc := by
    rw [storedOf, storedOf, creations_other h, rounds_other h]
  constructor
  · rw [hrec, hs]
    exact hI.stored
  all_goals simp only [creations_other h, rounds_other h]
  exacts [hI.once, hI.created, hI.opened, hI.ordered, hI.typed]

theorem le_last_of_ordered {R : List (Int × Int)} (h : R.Pairwise fun r r' => r.2 ≤ r'.2) {x : Int × Int}
    (hx : x ∈ R) : x.2 ≤ (R.getLast?.getD (0, 0)).2 := by
  have hne : R ≠ [] := List.ne_nil_of_mem hx
  rw [List.getLast?_eq_some_getLast hne, Option.getD_some]
  rw [← List.dropLast_append_getLast hne] at h hx
  rcases List.mem_append.mp hx with hx | hx
  · exact (List.pairwise_append.mp h).2.2 x hx _ (List.mem_singleton_self _)
  · rw [List.mem_singleton.mp hx]

end

/-! ## What an accepted call did -/

section
variable {tx tx' : Tx}

theorem create_fresh {id description : String} {decimals : Nat} {f : PriceFeed}
    (h : Returns (create id description decimals) tx f tx') :
    Text.trim id ≠ "" ∧ found tx (key (Text.trim id)) = none := by
  unfold create at h
  obtain ⟨hid, h1⟩ := Returns.guard h
  obtain ⟨-, h2⟩ := Returns.guard h1
  obtain ⟨b, t1, hb, h3⟩ := Returns.bind h2
  obtain ⟨-, rfl, rfl⟩ := (returns_io.mp hb).has
  obtain ⟨hf, -⟩ := Returns.guard h3
  exact ⟨by simpa using hid, by simpa using hf⟩

theorem submit_fresh {id : String} {answer time : Int} {r : Round} {s : Stored}
    (hs : recordAt shape storedOfValue tx.lookup (key (Text.trim id)) = some s)
    (h : Returns (submit id answer time) tx r tx') : 0 < s.roundId → s.updatedAt ≤ time.toNat := by
  unfold submit at h
  obtain ⟨s', t1, hl, h1⟩ := Returns.bind h
  obtain ⟨rfl, hs'⟩ := load_record hl
  rw [hs, Option.some_inj] at hs'
  subst hs'
  obtain ⟨-, h2⟩ := Returns.guard h1
  obtain ⟨hst, -⟩ := Returns.guard h2
  intro hr
  simp only [Bool.and_eq_true, decide_eq_true_eq, not_and, not_lt] at hst
  exact hst hr

/-- A committed transaction whose runs are runs of `m'` that only stage
writes committed the view one of them leaves. -/
theorem committed_of {ε α β : Type} {m : Txn α} {m' : TxnOf ε β} {S S' : Store}
    (hm : ∀ r t, Returns m { db := { store := S } } r t → ∃ r', Returns m' { db := { store := S } } r' t)
    (hs : ∀ r' t, Returns m' { db := { store := S } } r' t → Tx.Stages (fun _ => True) { db := { store := S } } t)
    (h : committed S m = some S') : ∃ r' t, Returns m' { db := { store := S } } r' t ∧ S'.get? = t.lookup := by
  unfold committed at h
  cases ha : atomic { store := S } m with
  | error f => simp [ha, Except.toOption] at h
  | ok p =>
    simp only [ha, Except.toOption, Option.map_some, Option.some_inj] at h
    subst h
    obtain ⟨t, hr, hc⟩ := Engine.atomic_eq_ok ha
    obtain ⟨r', hr'⟩ := hm _ _ hr
    exact ⟨r', t, hr', Engine.atomic_lookup (hs _ _ hr') hc⟩

theorem Call.accept_create {v : Bool} {id d : String} {n : Nat} {S S' : Store}
    (h : (Call.create v id d n).accept S = some S') :
    ∃ f t, Returns (Feed.create id d n) { db := { store := S } } f t ∧ S'.get? = t.lookup := by
  have hs : ∀ f t, Returns (Feed.create id d n) { db := { store := S } } f t →
      Tx.Stages (fun _ => True) { db := { store := S } } t := fun f t hf => by
    obtain ⟨b, rfl⟩ := create_returns hf
    exact Tx.Stages.restaged trivial _
  cases v <;> simp only [Call.accept] at h
  · refine committed_of (fun r t hr => ⟨r, ?_⟩) hs h
    exact returns_mapFault.mp hr
  · refine committed_of (fun r t hr => ?_) hs h
    unfold Engine.createFeed at hr
    obtain ⟨f, t1, hl, h1⟩ := Returns.bind hr
    obtain ⟨-, rfl⟩ := Returns.pure h1
    exact ⟨f, returns_mapFault.mp hl⟩

theorem Call.accept_submit {v : Bool} {id : String} {a t : Int} {S S' : Store}
    (h : (Call.submit v id a t).accept S = some S') :
    ∃ r u, Returns (Feed.submit id a t) { db := { store := S } } r u ∧ S'.get? = u.lookup := by
  have hs : ∀ r u, Returns (Feed.submit id a t) { db := { store := S } } r u →
      Tx.Stages (fun _ => True) { db := { store := S } } u := fun r u hr => by
    obtain ⟨i, b, rfl⟩ := submit_returns hr
    exact Tx.Stages.restaged trivial _
  cases v <;> simp only [Call.accept] at h
  · refine committed_of (fun r u hr => ⟨r, ?_⟩) hs h
    exact returns_mapFault.mp hr
  · refine committed_of (fun r u hr => ?_) hs h
    unfold Engine.submitRound at hr
    obtain ⟨x, t1, hl, h1⟩ := Returns.bind hr
    obtain ⟨-, rfl⟩ := Returns.pure h1
    exact ⟨x, returns_mapFault.mp hl⟩

end

/-! ## The invariant, call by call -/

section
variable {tx tx' : Tx} {acc : List Call}

theorem Faithful.empty (k : String) : Faithful ({} : Store).get? [] k where
  stored := rfl
  once := by simp [creations]
  created := by simp [creations]
  opened _ := rfl
  ordered := .nil
  typed := by simp [rounds]

theorem Faithful.create {id d : String} {n : Nat} {f : PriceFeed} (v : Bool)
    (hI : Faithful tx.lookup acc (Text.trim id)) (hid : Text.Short id) (hd : Text.Short d)
    (h : Returns (Feed.create id d n) tx f tx') : Faithful tx'.lookup (acc ++ [.create v id d n]) (Text.trim id) := by
  obtain ⟨hblank, hnone⟩ := create_fresh h
  obtain ⟨hdec, rfl⟩ := create_stores h
  -- nothing was stored for the feed, so nothing was accepted for it
  have hc0 : creations (Text.trim id) acc = [] :=
    storedOf_eq_none.mp (hI.stored.symm.trans (recordAt_eq_none_of_found hnone))
  have hr0 := hI.opened hc0
  have hdec' : n ≤ Amount.maxDecimals := Nat.le_of_not_gt hdec
  have hfits := fits_stored (s := { id := Text.trim id, description := Text.trim d, decimals := n })
    hid.trim hd.trim (show n < 256 by simp only [Amount.maxDecimals] at hdec'; omega) (by norm_num) (by norm_num)
    (by norm_num)
  have hc : creations (Text.trim id) (acc ++ [.create v id d n]) = [(Text.trim d, n)] := by
    simp [creations_append_single, hc0, Call.creation]
  have hr : rounds (Text.trim id) (acc ++ [.create v id d n]) = [] := by
    simp [rounds_append_single, hr0, Call.round]
  constructor
  · rw [recordAt_restaged_encode hfits, storedOfValue_toValue, storedOf, hc, hr]
    rfl
  all_goals simp only [hc, hr]
  · simp
  · simpa using ⟨hblank, hid.trim, hd.trim, hdec'⟩
  · intro h
    cases h
  · exact .nil
  · simp

/-- On a faithful feed, an accepted round rewrites the feed's record with one
more round, the answer and the time, which is not before the last round's. -/
theorem submit_faithful {id : String} {a t : Int} {r : Round} (hI : Faithful tx.lookup acc (Text.trim id))
    (h : Returns (Feed.submit id a t) tx r tx') :
    ∃ p, (creations (Text.trim id) acc).head? = some p ∧ 0 ≤ t ∧
      (0 < (rounds (Text.trim id) acc).length →
        ((rounds (Text.trim id) acc).getLast?.getD (0, 0)).2.toNat ≤ t.toNat) ∧
      tx' = tx.restaged (key (Text.trim id)) (some (Rlp.encode (⟨Text.trim id, p.1, p.2,
        (rounds (Text.trim id) acc).length + 1, magnitudeOf a, decide (a < 0), t.toNat⟩ : Stored).toValue)) := by
  have hl := h
  unfold Feed.submit at hl
  obtain ⟨s, t1, hl, -⟩ := Returns.bind hl
  have hs := (load_record hl).2
  have hfresh := submit_fresh hs h
  obtain ⟨ht, rfl⟩ := submit_stores hs h
  -- the loaded record is the one the accepted calls describe
  rw [hI.stored] at hs
  obtain ⟨p, hp, rfl⟩ := Option.map_eq_some_iff.mp hs
  exact ⟨p, hp, ht, hfresh, rfl⟩

theorem Faithful.submit {id : String} {a t : Int} {r : Round} (v : Bool)
    (hI : Faithful tx.lookup acc (Text.trim id)) (ha : -2 ^ 63 ≤ a ∧ a < 2 ^ 63 ∧ t < 2 ^ 63)
    (hn : acc.length + 1 < 2 ^ 64) (h : Returns (Feed.submit id a t) tx r tx') :
    Faithful tx'.lookup (acc ++ [.submit v id a t]) (Text.trim id) := by
  obtain ⟨p, hp, ht, hfresh, rfl⟩ := submit_faithful hI h
  set R := rounds (Text.trim id) acc with hR
  have hpm : p ∈ creations (Text.trim id) acc := List.mem_of_mem_head? hp
  obtain ⟨-, hsid, hsd, hsdec⟩ := hI.created p hpm
  have hlen : R.length ≤ acc.length := List.length_filterMap_le _ _
  have hmag : magnitudeOf a < 2 ^ 64 := by
    unfold magnitudeOf
    split <;> omega
  have hfits := fits_stored (s := ⟨Text.trim id, p.1, p.2, R.length + 1, magnitudeOf a, decide (a < 0), t.toNat⟩)
    hsid hsd (show p.2 < 256 by simp only [Amount.maxDecimals] at hsdec; omega) (show R.length + 1 < 2 ^ 64 by omega)
    hmag (show t.toNat < 2 ^ 64 by omega)
  have hc : creations (Text.trim id) (acc ++ [.submit v id a t]) = creations (Text.trim id) acc := by
    simp [creations_append_single, Call.creation]
  have hr : rounds (Text.trim id) (acc ++ [.submit v id a t]) = R ++ [(a, t)] := by
    simp [hR, rounds_append_single, Call.round]
  constructor
  · rw [recordAt_restaged_encode hfits, storedOfValue_toValue, storedOf, hc, hr, hp]
    simp
  all_goals simp only [hc, hr]
  · exact hI.once
  · exact hI.created
  · intro h0
    rw [h0] at hp
    cases hp
  · -- every earlier round is at most the last, which the new time does not precede
    refine List.pairwise_append.mpr ⟨hI.ordered, List.pairwise_singleton _ _, fun x hx y hy => ?_⟩
    rw [List.mem_singleton.mp hy]
    have hne : R ≠ [] := List.ne_nil_of_mem hx
    have hmem : R.getLast?.getD (0, 0) ∈ R := by
      rw [List.getLast?_eq_some_getLast hne, Option.getD_some]
      exact List.getLast_mem hne
    have hlast : x.2 ≤ (R.getLast?.getD (0, 0)).2 := le_last_of_ordered hI.ordered hx
    have hlast0 := Int.toNat_of_nonneg (hI.typed _ hmem).2.2.1
    have hstale := hfresh (List.length_pos_of_ne_nil hne)
    have ht0 := Int.toNat_of_nonneg ht
    dsimp only
    omega
  · intro x hx
    rcases List.mem_append.mp hx with hx | hx
    · exact hI.typed x hx
    · rw [List.mem_singleton.mp hx]
      exact ⟨ha.1, ha.2.1, ht, ha.2.2⟩

/-- Every call keeps every feed faithful: a refused one commits nothing, and
an accepted one changes only the feed it addresses. -/
theorem Faithful.step {S : Store} {c : Call} (hI : ∀ k, Faithful S.get? acc k) (hc : c.Typed)
    (hn : acc.length + 1 < 2 ^ 64) (k : String) : Faithful (c.step (S, acc)).1.get? (c.step (S, acc)).2 k := by
  have hI' : ∀ k, Faithful ({ db := { store := S } } : Tx).lookup acc k := by
    rw [Tx.lookup_start]
    exact hI
  unfold Call.step
  cases ha : c.accept S with
  | none => exact hI k
  | some S' =>
    cases c with
    | create v id d n =>
      obtain ⟨f, t, hf, hS'⟩ := Call.accept_create ha
      dsimp only
      rw [hS']
      by_cases hk : Text.trim id = k
      · subst hk
        exact Faithful.create v (hI' _) hc.1 hc.2 hf
      · obtain ⟨b, rfl⟩ := create_returns hf
        exact (hI' k).other hk (by simp [Ne.symm hk])
    | submit v id a t =>
      obtain ⟨r, u, hr, hS'⟩ := Call.accept_submit ha
      dsimp only
      rw [hS']
      by_cases hk : Text.trim id = k
      · subst hk
        exact Faithful.submit v (hI' _) hc hn hr
      · obtain ⟨-, -, -, -, rfl⟩ := submit_faithful (hI' _) hr
        exact (hI' k).other hk (by simp [Ne.symm hk])

theorem Call.step_extends (c : Call) (s : Store × List Call) : ∃ l, (c.step s).2 = s.2 ++ l ∧ l.length ≤ 1 := by
  unfold Call.step
  split
  · exact ⟨[c], rfl, le_refl _⟩
  · exact ⟨[], (List.append_nil _).symm, Nat.zero_le _⟩

theorem foldl_step_extends : ∀ (cs : List Call) (s : Store × List Call),
    ∃ l, (cs.foldl Call.step s).2 = s.2 ++ l ∧ l.length ≤ cs.length
  | [], s => ⟨[], (List.append_nil _).symm, le_refl _⟩
  | c :: cs, s => by
    obtain ⟨l, hl, hll⟩ := c.step_extends s
    obtain ⟨l', hl', hll'⟩ := foldl_step_extends cs (c.step s)
    refine ⟨l ++ l', ?_, ?_⟩
    · rw [List.foldl_cons, hl', hl, List.append_assoc]
    · simp only [List.length_append, List.length_cons]
      omega

theorem Faithful.run : ∀ (cs : List Call) (s : Store × List Call), (∀ k, Faithful s.1.get? s.2 k) →
    (∀ c ∈ cs, c.Typed) → s.2.length + cs.length < 2 ^ 64 →
    ∀ k, Faithful (cs.foldl Call.step s).1.get? (cs.foldl Call.step s).2 k
  | [], _, hI, _, _ => hI
  | c :: cs, (S, acc), hI, hcs, hn => by
    obtain ⟨l, hl, hll⟩ := c.step_extends (S, acc)
    dsimp only at hl
    have hlen : (c.step (S, acc)).2.length + cs.length < 2 ^ 64 := by
      rw [hl, List.length_append]
      simp only [List.length_cons] at hn
      omega
    have hstep := Faithful.step hI (hcs c (List.mem_cons_self ..))
      (show acc.length + 1 < 2 ^ 64 by simp only [List.length_cons] at hn; omega)
    exact Faithful.run cs _ hstep (fun c' hc' => hcs c' (List.mem_cons_of_mem _ hc')) hlen

end

/-! ## What a read reports -/

section
variable {acc : List Call} {k : String}

theorem signed_toNat {t : Int} (h0 : 0 ≤ t) (h1 : t < 2 ^ 63) : signed t.toNat = t := by
  have h63 : Nat.pow 2 63 = 2 ^ 63 := rfl
  unfold signed
  rw [h63]
  split <;> omega

/-- The record a faithful store holds reads as the feed the accepted calls
describe, answers and times as they were given. -/
theorem Faithful.toFeed {L : Bytes → Option Bytes} (hI : Faithful L acc k) :
    (storedOf k acc).map Stored.toFeed = feedOf k acc := by
  unfold storedOf feedOf
  cases hc : (creations k acc).head? with
  | none => rfl
  | some p =>
    simp only [Option.map_some, Option.some_inj]
    cases hR : (rounds k acc).getLast? with
    | none =>
      rw [List.getLast?_eq_none_iff] at hR
      simp [Stored.toFeed, hR]
    | some x =>
      have hx : x ∈ rounds k acc := List.mem_of_getLast? hR
      obtain ⟨ha0, ha1, ht0, ht1⟩ := hI.typed x hx
      have hlen : (rounds k acc).length ≠ 0 := by
        simpa using List.ne_nil_of_mem hx
      simp only [Stored.toFeed, Option.getD_some, Option.map_some, hlen, if_false, answer_roundtrip ha0 ha1,
        signed_toNat ht0 ht1]

theorem load_eq {tx : Tx} {id : String} {s : Stored} (hraw : ∀ k, tx.raw k = .ok (tx.lookup k))
    (hid : Text.trim id ≠ "") (h : recordAt shape storedOfValue tx.lookup (key (Text.trim id)) = some s) :
    load id tx = .ok (s, tx) := by
  obtain ⟨v, hv, rfl⟩ := Txn.read_of_recordAt (hraw _) (by simp [key, feedPrefix_eq]) h
  unfold load
  simp [hid, io, Txn.mapFault, hv, bind, StateT.bind, Except.bind, pure, StateT.pure, Except.pure]

theorem Faithful.nonblank {L : Bytes → Option Bytes} {s : Stored} (hI : Faithful L acc k)
    (hs : storedOf k acc = some s) : k ≠ "" := by
  obtain ⟨p, hp, -⟩ := Option.map_eq_some_iff.mp hs
  exact (hI.created p (List.mem_of_mem_head? hp)).1

variable {S : Store}

theorem Faithful.load_view {k' : String} {s : Stored} (hI : Faithful S.get? acc (Text.trim k'))
    (hs : storedOf (Text.trim k') acc = some s) :
    load k' { db := { store := S }, readOnly := true } = .ok (s, { db := { store := S }, readOnly := true }) := by
  have hrec : recordAt shape storedOfValue ({ db := { store := S }, readOnly := true } : Tx).lookup
      (key (Text.trim k')) = some s := by
    rw [Tx.lookup_view]
    exact hI.stored.trans hs
  exact load_eq (Tx.raw_of_db rfl) (hI.nonblank hs) hrec

/-- On a faithful store a read of the feed `k'` finds the feed the accepted
calls describe, and nothing else. -/
theorem Faithful.view_get (hI : Faithful S.get? acc (Text.trim k')) (f : PriceFeed) :
    runView { store := S } (Api.feedCall (get k')) = .ok f ↔ feedOf (Text.trim k') acc = some f := by
  rw [← hI.toFeed]
  constructor
  · intro h
    obtain ⟨t, ht⟩ := Api.runView_ok h
    have ht := returns_mapFault.mp ht
    unfold get at ht
    obtain ⟨s, t1, hl, h1⟩ := Returns.bind ht
    obtain ⟨-, hrec⟩ := load_record hl
    obtain ⟨rfl, -⟩ := Returns.pure h1
    rw [Tx.lookup_view, hI.stored] at hrec
    rw [hrec]
    rfl
  · intro h
    obtain ⟨s, hs, rfl⟩ := Option.map_eq_some_iff.mp h
    have hload := hI.load_view hs
    apply Issuance.Store.view_of_returns (t := { db := { store := S }, readOnly := true })
    apply returns_mapFault.mpr
    unfold Returns get
    simp [bind, StateT.bind, Except.bind, hload, pure, StateT.pure, Except.pure]

/-- On a faithful store a feed's latest round is its last accepted one,
numbered by their count; without rounds it has none. -/
theorem Faithful.view_latest (hI : Faithful S.get? acc (Text.trim k')) (r : Round) :
    runView { store := S } (Api.feedCall (latest k')) = .ok r ↔
      (feedOf (Text.trim k') acc).bind PriceFeed.latest = some r := by
  rw [← hI.toFeed]
  constructor
  · intro h
    obtain ⟨t, ht⟩ := Api.runView_ok h
    have ht := returns_mapFault.mp ht
    unfold latest at ht
    obtain ⟨s, t1, hl, h1⟩ := Returns.bind ht
    obtain ⟨-, hrec⟩ := load_record hl
    rw [Tx.lookup_view, hI.stored] at hrec
    rw [hrec]
    split at h1
    · rename_i r' hr'
      obtain ⟨rfl, -⟩ := Returns.pure h1
      simpa using hr'
    · cases h1
  · intro h
    obtain ⟨f, hf, hr⟩ := Option.bind_eq_some_iff.mp h
    obtain ⟨s, hs, rfl⟩ := Option.map_eq_some_iff.mp hf
    have hload := hI.load_view hs
    apply Issuance.Store.view_of_returns (t := { db := { store := S }, readOnly := true })
    apply returns_mapFault.mpr
    unfold Returns latest
    simp [bind, StateT.bind, Except.bind, hload, hr, pure, StateT.pure, Except.pure]

end

/-! ## The registry's history -/

theorem history_append (cs₁ cs₂ : List Call) : history (cs₁ ++ cs₂) = cs₂.foldl Call.step (history cs₁) :=
  List.foldl_append

theorem feedOf_append {k : String} {acc : List Call} {f : PriceFeed} (l : List Call) (h : feedOf k acc = some f) :
    ∃ f', feedOf k (acc ++ l) = some f' ∧ f'.description = f.description ∧ f'.decimals = f.decimals := by
  unfold feedOf at h ⊢
  obtain ⟨p, hp, rfl⟩ := Option.map_eq_some_iff.mp h
  have hp' : (creations k (acc ++ l)).head? = some p := by
    rw [creations, List.filterMap_append, List.head?_append, ← creations, hp, Option.some_or]
  rw [hp']
  exact ⟨_, rfl, rfl, rfl⟩

/-- For any typed calls a feed is created once with at most 19 decimals;
rounds never go back in time, and reads give the last one. -/
theorem registry_history {cs : List Call} (hcs : ∀ c ∈ cs, c.Typed) (hn : cs.length < 2 ^ 64) (k : String) :
    (creations (Text.trim k) (history cs).2).length ≤ 1 ∧
    (∀ p ∈ creations (Text.trim k) (history cs).2, p.2 ≤ Amount.maxDecimals) ∧
    (rounds (Text.trim k) (history cs).2).Pairwise (fun r r' => r.2 ≤ r'.2) ∧
    (∀ r ∈ rounds (Text.trim k) (history cs).2, 0 ≤ r.2) ∧
    (∀ f, runView { store := (history cs).1 } (Api.feedCall (get k)) = .ok f ↔
      feedOf (Text.trim k) (history cs).2 = some f) ∧
    (∀ r, runView { store := (history cs).1 } (Api.feedCall (latest k)) = .ok r ↔
      (feedOf (Text.trim k) (history cs).2).bind PriceFeed.latest = some r) ∧
    ∀ cs₁ cs₂ f, cs = cs₁ ++ cs₂ → feedOf (Text.trim k) (history cs₁).2 = some f →
      ∃ f', feedOf (Text.trim k) (history cs).2 = some f' ∧ f'.description = f.description ∧
        f'.decimals = f.decimals := by
  have hI := Faithful.run cs ({}, []) Faithful.empty hcs (by simpa using hn) (Text.trim k)
  refine ⟨hI.once, fun p hp => (hI.created p hp).2.2.2, hI.ordered, fun r hr => (hI.typed r hr).2.2.1,
    hI.view_get, hI.view_latest, ?_⟩
  rintro cs₁ cs₂ f rfl hf
  -- later calls only add to the accepted ones
  obtain ⟨l, hl, -⟩ := foldl_step_extends cs₂ (history cs₁)
  rw [history_append, hl]
  exact feedOf_append l hf

/-- A feed created through the engine and given the most negative 64-bit
answer directly. -/
def goldCalls : List Call := [.create true "XAU" "gold" 8, .submit false "XAU" (-2 ^ 63) 1700000000]

theorem registry_history_of_gold :
    (∀ c ∈ goldCalls, c.Typed) ∧ goldCalls.length < 2 ^ 64 ∧
    ((creations (Text.trim "XAU") (history goldCalls).2).length ≤ 1 ∧
    (∀ p ∈ creations (Text.trim "XAU") (history goldCalls).2, p.2 ≤ Amount.maxDecimals) ∧
    (rounds (Text.trim "XAU") (history goldCalls).2).Pairwise (fun r r' => r.2 ≤ r'.2) ∧
    (∀ r ∈ rounds (Text.trim "XAU") (history goldCalls).2, 0 ≤ r.2) ∧
    (∀ f, runView { store := (history goldCalls).1 } (Api.feedCall (get "XAU")) = .ok f ↔
      feedOf (Text.trim "XAU") (history goldCalls).2 = some f) ∧
    (∀ r, runView { store := (history goldCalls).1 } (Api.feedCall (latest "XAU")) = .ok r ↔
      (feedOf (Text.trim "XAU") (history goldCalls).2).bind PriceFeed.latest = some r) ∧
    ∀ cs₁ cs₂ f, goldCalls = cs₁ ++ cs₂ → feedOf (Text.trim "XAU") (history cs₁).2 = some f →
      ∃ f', feedOf (Text.trim "XAU") (history goldCalls).2 = some f' ∧ f'.description = f.description ∧
        f'.decimals = f.decimals) := by
  have hcs : ∀ c ∈ goldCalls, c.Typed := by
    simp only [goldCalls, List.mem_cons, List.not_mem_nil, or_false, forall_eq_or_imp, forall_eq]
    exact ⟨⟨by unfold Text.Short; decide +kernel, by unfold Text.Short; decide +kernel⟩, by norm_num [Call.Typed]⟩
  exact ⟨hcs, by decide, registry_history hcs (by decide) "XAU"⟩

end Feed

end Issuance
