import Mathlib
import Issuance.Proofs.Text.Trim
import Issuance.Channel.Validate
import Issuance.Pricing
/-! # What the channel checks admit

Each check, an `Except` passing with `()`, said as a proposition. A
channel's validity: its basket's shape, bounds on fee and decimals, counters
within caps and the kept fee at most a fifth of the issued. -/
namespace Issuance.Channel

/-- A basket of named, trimmed, distinct legs of at most nineteen decimals
whose weights sum to a whole. -/
structure BasketValid (basket : List Leg) : Prop where
  trimmed : ∀ l ∈ basket, Text.trim l.asset = l.asset
  named : ∀ l ∈ basket, l.asset ≠ ""
  distinct : (basket.map (·.asset)).Nodup
  decimals : ∀ l ∈ basket, l.decimals ≤ Amount.maxDecimals
  weights : (basket.map (·.weightBps)).sum = Amount.basisPoints

end Channel

/-- A mint channel as its settings and its conversions leave it. -/
structure MintChannel.Valid (c : MintChannel) : Prop where
  basket_le : c.basket.length ≤ c.capacity
  fee_le : c.feeBps ≤ maxFeeBps
  basket : c.basket = [] ∨ Channel.BasketValid c.basket
  active : c.active = true → c.basket ≠ []
  issued_le : c.counters.lifetimeIssued ≤ c.counters.lifetimeCap
  fee_issued : 5 * c.counters.accumulatedFee ≤ c.counters.lifetimeIssued

/-- A burn channel as its settings and its conversions leave it. -/
structure BurnChannel.Valid (c : BurnChannel) : Prop where
  fee_le : c.feeBps ≤ maxFeeBps
  decimals_le : c.outputDecimals ≤ Amount.maxDecimals
  active : c.active = true → c.outputAsset ≠ "" ∧ Text.trim c.outputAsset = c.outputAsset
  issued_le : c.counters.lifetimeIssued ≤ c.counters.lifetimeCap

namespace Channel

/-! ## Settings -/

theorem checkPath_eq_ok {path p : String} : checkPath path = .ok p ↔ p = Text.trim path ∧ p ≠ "" := by
  unfold checkPath
  by_cases h : (Text.trim path).isEmpty = true
  · simp only [h, if_true, reduceCtorEq, false_iff, not_and, not_not]
    rintro rfl
    simpa using h
  · simp only [h, if_false, Bool.false_eq_true, Except.ok.injEq]
    simp only [String.isEmpty_iff] at h
    constructor
    · rintro rfl
      exact ⟨rfl, h⟩
    · rintro ⟨rfl, -⟩
      rfl

theorem checkFee_eq_ok {fee : Nat} : checkFee fee = .ok () ↔ fee ≤ maxFeeBps := by
  unfold checkFee
  split <;> simp_all

theorem checkDecimals_eq_ok {d : Nat} : checkDecimals d = .ok () ↔ d ≤ Amount.maxDecimals := by
  unfold checkDecimals
  split <;> simp_all

/-- The legs pass when each is named and of valid decimals and no trimmed
asset repeats, here or among those seen before. -/
theorem checkLegs_eq_ok {i : Nat} {seen : List String} {legs : List Leg} :
    checkLegs i seen legs = .ok () ↔
      (∀ l ∈ legs, Text.trim l.asset ≠ "" ∧ l.decimals ≤ Amount.maxDecimals ∧ Text.trim l.asset ∉ seen) ∧
        (legs.map fun l => Text.trim l.asset).Nodup := by
  induction legs generalizing i seen with
  | nil => simp [checkLegs]
  | cons l ls ih =>
    unfold checkLegs
    by_cases he : (Text.trim l.asset).isEmpty = true
    · simp only [he, if_true, reduceCtorEq, false_iff]
      simp only [String.isEmpty_iff] at he
      simp [he]
    by_cases hs : seen.contains (Text.trim l.asset) = true
    · simp only [he, hs, if_true, if_false, Bool.false_eq_true, reduceCtorEq, false_iff]
      simp only [List.contains_iff_mem] at hs
      simp [hs]
    simp only [he, hs, if_false, Bool.false_eq_true]
    simp only [String.isEmpty_iff, List.contains_iff_mem] at he hs
    cases hd : checkDecimals l.decimals with
    | error f =>
      have : ¬ l.decimals ≤ Amount.maxDecimals := fun h => by
        rw [checkDecimals_eq_ok.mpr h] at hd
        cases hd
      simp [this]
    | ok u =>
      have hdec := checkDecimals_eq_ok.mp hd
      rw [ih]
      simp only [List.forall_mem_cons, List.map_cons, List.nodup_cons]
      simp only [List.mem_map, List.mem_cons, not_or]
      constructor
      · rintro ⟨hall, hnd⟩
        exact ⟨⟨⟨he, hdec, hs⟩, fun x hx => ⟨(hall x hx).1, (hall x hx).2.1, (hall x hx).2.2.2⟩⟩,
          fun ⟨x, hx, hxe⟩ => (hall x hx).2.2.1 hxe, hnd⟩
      · rintro ⟨⟨-, hall⟩, hnot, hnd⟩
        exact ⟨fun x hx => ⟨(hall x hx).1, (hall x hx).2.1, fun hxe => hnot ⟨x, hx, hxe⟩, (hall x hx).2.2⟩, hnd⟩

theorem checkBasket_eq_ok {basket : List Leg} {capacity : Nat} (ht : ∀ l ∈ basket, Text.trim l.asset = l.asset) :
    checkBasket basket capacity = .ok () ↔ basket.length ≤ capacity ∧ (basket = [] ∨ BasketValid basket) := by
  unfold checkBasket
  by_cases hc : basket.length > capacity
  · simp only [hc, if_true, reduceCtorEq, false_iff, not_and]
    omega
  simp only [hc, if_false]
  by_cases hn : basket.isEmpty = true
  · simp only [hn, if_true, true_iff]
    exact ⟨by omega, .inl (List.isEmpty_iff.mp hn)⟩
  simp only [hn, if_false, Bool.false_eq_true]
  have hne : basket ≠ [] := fun h => hn (List.isEmpty_iff.mpr h)
  have hmap : basket.map (fun l => Text.trim l.asset) = basket.map (·.asset) := List.map_congr_left ht
  cases hl : checkLegs 0 [] basket with
  | error f =>
    simp only [reduceCtorEq, false_iff, not_and, hne, false_or]
    intro _ hv
    have hok : checkLegs 0 [] basket = .ok () := checkLegs_eq_ok.mpr
      ⟨fun l hl => ⟨by rw [ht l hl]; exact hv.named l hl, hv.decimals l hl, by simp⟩, hmap ▸ hv.distinct⟩
    rw [hl] at hok
    cases hok
  | ok u =>
    obtain ⟨hall, hnd⟩ := checkLegs_eq_ok.mp hl
    rw [← List.sum_eq_foldl]
    by_cases hw : (basket.map (·.weightBps)).sum = Amount.basisPoints
    · simp only [hw, ne_eq, not_true_eq_false, if_false, true_iff, hne, false_or]
      refine ⟨by omega, ht, fun l hl => ?_, hmap ▸ hnd, fun l hl => (hall l hl).2.1, hw⟩
      rw [← ht l hl]
      exact (hall l hl).1
    · simp only [hw, ne_eq, not_false_eq_true, if_true, reduceCtorEq, false_iff, not_and, hne, false_or]
      exact fun _ hv => hw hv.weights

theorem checkMintSettings_eq_ok {s : MintSettings} {capacity : Nat} (ht : ∀ l ∈ s.basket, Text.trim l.asset = l.asset) :
    checkMintSettings s capacity = .ok () ↔
      s.feeBps ≤ maxFeeBps ∧ (s.active = true → s.basket ≠ []) ∧ s.basket.length ≤ capacity ∧
        (s.basket = [] ∨ BasketValid s.basket) := by
  unfold checkMintSettings
  cases hf : checkFee s.feeBps with
  | error f =>
    have : ¬ s.feeBps ≤ maxFeeBps := fun h => by rw [checkFee_eq_ok.mpr h] at hf; cases hf
    simp [bind, Except.bind, this]
  | ok u =>
    have hfee := checkFee_eq_ok.mp hf
    by_cases ha : (s.active && s.basket.isEmpty) = true
    · simp only [Bool.and_eq_true, List.isEmpty_iff] at ha
      simp [bind, Except.bind, ha, throw, throwThe, MonadExceptOf.throw]
    · have ha' : s.active = true → s.basket ≠ [] := fun h1 h2 => ha (by simp [h1, h2])
      simp only [bind, Except.bind, ha, Bool.false_eq_true, if_false, hfee, true_and]
      rw [checkBasket_eq_ok ht]
      exact ⟨fun h => ⟨ha', h⟩, fun h => h.2⟩

theorem checkBurnSettings_eq_ok {s : BurnSettings} :
    checkBurnSettings s = .ok () ↔
      s.feeBps ≤ maxFeeBps ∧ s.outputDecimals ≤ Amount.maxDecimals ∧
        (s.active = true → Text.isBlankText s.outputAsset = false) := by
  unfold checkBurnSettings
  cases hf : checkFee s.feeBps with
  | error f =>
    have : ¬ s.feeBps ≤ maxFeeBps := fun h => by rw [checkFee_eq_ok.mpr h] at hf; cases hf
    simp [bind, Except.bind, this]
  | ok u =>
    have hfee := checkFee_eq_ok.mp hf
    cases hd : checkDecimals s.outputDecimals with
    | error f =>
      have : ¬ s.outputDecimals ≤ Amount.maxDecimals := fun h => by
        rw [checkDecimals_eq_ok.mpr h] at hd
        cases hd
      simp [bind, Except.bind, this]
    | ok u' =>
      have hdec := checkDecimals_eq_ok.mp hd
      by_cases ha : (s.active && Text.isBlankText s.outputAsset) = true
      · simp only [Bool.and_eq_true] at ha
        simp [bind, Except.bind, ha, throw, throwThe, MonadExceptOf.throw]
      · have ha' : s.active = true → Text.isBlankText s.outputAsset = false := fun h1 => by
          simpa [h1] using ha
        simp only [bind, Except.bind, ha, Bool.false_eq_true, if_false, hfee, hdec, true_and, pure,
          Except.pure]
        exact iff_of_true trivial ha'

theorem isBlankText_empty : Text.isBlankText "" = true := rfl

theorem ne_empty_of_not_isBlankText {t : String} (h : Text.isBlankText t = false) : t ≠ "" := by
  rintro rfl
  rw [isBlankText_empty] at h
  cases h

theorem lifetimeIssued_le_of_checkCapsAgainst {c : Counters} {l : Limits} {hours : Nat} {now : Int}
    (h : checkCapsAgainst c l hours now = .ok ()) : c.lifetimeIssued ≤ l.lifetimeCap := by
  unfold checkCapsAgainst at h
  by_contra hlt
  simp [bind, Except.bind, show l.lifetimeCap < c.lifetimeIssued by omega, throw, throwThe,
    MonadExceptOf.throw] at h

/-- The caps a setting may take: neither below the lifetime count nor below
the count of the window at `now`. -/
theorem checkCapsAgainst_eq_ok {c : Counters} {l : Limits} {hours : Nat} {now : Int} :
    checkCapsAgainst c l hours now = .ok () ↔
      c.lifetimeIssued ≤ l.lifetimeCap ∧ (snapshot c hours now).issued ≤ l.periodCap := by
  unfold checkCapsAgainst
  by_cases h1 : l.lifetimeCap < c.lifetimeIssued
  · simp only [h1, if_true, bind, Except.bind, throw, throwThe, MonadExceptOf.throw, reduceCtorEq, false_iff]
    omega
  · by_cases h2 : l.periodCap < (snapshot c hours now).issued
    · simp only [h1, h2, if_true, if_false, bind, Except.bind, throw, throwThe, MonadExceptOf.throw, pure,
        Except.pure, reduceCtorEq, false_iff]
      omega
    · simp only [h1, h2, if_false, bind, Except.bind, pure, Except.pure, true_iff]
      omega

/-! ## Conversions -/

theorem Snapshot.apply_eq_ok {w : Snapshot} {c c' : Counters} {x : Nat} {reset : Bool}
    (h : w.apply c x = .ok (c', reset)) :
    c'.lifetimeIssued = c.lifetimeIssued + x ∧ c'.periodIssued = w.issued + x ∧
      c'.lifetimeCap = c.lifetimeCap ∧ c'.periodCap = c.periodCap ∧ c'.accumulatedFee = c.accumulatedFee ∧
      (c'.periodAnchor = c.periodAnchor ∨ c'.periodAnchor = w.now) := by
  unfold Snapshot.apply at h
  cases hl : Amount.checkedAdd c.lifetimeIssued x with
  | error f => simp [hl, bind, Except.bind] at h
  | ok lifetime =>
    obtain ⟨-, rfl⟩ := Amount.checkedAdd_eq_ok.mp hl
    cases hp : Amount.checkedAdd w.issued x with
    | error f => simp [hl, hp, bind, Except.bind] at h
    | ok period =>
      obtain ⟨-, rfl⟩ := Amount.checkedAdd_eq_ok.mp hp
      simp only [hl, hp, bind, Except.bind] at h
      split at h <;> simp only [pure, Except.pure, Except.ok.injEq, Prod.mk.injEq] at h <;>
        obtain ⟨rfl, -⟩ := h <;> simp

theorem splitFee_eq_ok {amount feeBps fee payout : Nat} (h : splitFee amount feeBps = .ok (fee, payout)) :
    fee = amount * feeBps / Amount.basisPoints ∧ fee ≤ amount ∧ payout = amount - fee := by
  unfold splitFee at h
  cases hm : Amount.mulDiv amount feeBps Amount.basisPoints with
  | error f => simp [hm, bind, Except.bind] at h
  | ok q =>
    obtain ⟨-, -, rfl⟩ := Amount.mulDiv_eq_ok.mp hm
    cases hs : Amount.checkedSub amount (amount * feeBps / Amount.basisPoints) with
    | error f => simp [hm, hs, bind, Except.bind] at h
    | ok r =>
      obtain ⟨hle, rfl⟩ := Amount.checkedSub_eq_ok.mp hs
      simp only [hm, hs, bind, Except.bind, pure, Except.pure, Except.ok.injEq, Prod.mk.injEq] at h
      obtain ⟨rfl, rfl⟩ := h
      exact ⟨rfl, hle, rfl⟩

theorem five_mul_fee_le {amount feeBps : Nat} (h : feeBps ≤ maxFeeBps) :
    5 * (amount * feeBps / Amount.basisPoints) ≤ amount := by
  have h1 : amount * feeBps / Amount.basisPoints ≤ amount * maxFeeBps / Amount.basisPoints :=
    Nat.div_le_div_right (Nat.mul_le_mul_left amount h)
  have h2 : amount * maxFeeBps / Amount.basisPoints = amount / 5 := by
    rw [maxFeeBps, Amount.basisPoints, show (10000 : Nat) = 2000 * 5 by norm_num, ← Nat.div_div_eq_div_mul,
      Nat.mul_div_cancel _ (by norm_num)]
  have h3 := Nat.mul_div_le amount 5
  omega

end Issuance.Channel
