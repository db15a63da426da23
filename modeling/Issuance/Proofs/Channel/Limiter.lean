import Mathlib
import Issuance.Proofs.Channel.Checks
/-! # The fixed-window limiter

A `Limiter` keeps a window's start and count. Conversions where only the
first opened a window total at most the cap (`sum_le_cap`); with monotone
times any one-period interval totals at most twice the cap
(`within_le_two_caps`). Counters follow it while the end does not wrap. -/
namespace Issuance.Channel

/-- A conversion as its receipt records it: when it ran, what it counted, and
whether it opened a new window. -/
structure Conversion where
  time : Int
  amount : Nat
  reset : Bool
  deriving DecidableEq, Repr

/-- What the conversions of `ds` whose times fall in `[T, T + H)` total. -/
def Conversion.totalWithin (ds : List Conversion) (T : Int) (H : Nat) : Nat :=
  ((ds.filter fun d => T ≤ d.time ∧ d.time < T + H).map (·.amount)).sum

/-- A window limiter: the most one window may count, and the length of a
window in seconds. -/
structure Limiter where
  cap : Nat
  period : Nat
  deriving DecidableEq, Repr

namespace Limiter

/-- The window `w`, started at `w.1` and having counted `w.2`, after a
conversion; `none` when the limiter refuses it. -/
def take (l : Limiter) (w : Int × Nat) (d : Conversion) : Option (Int × Nat) :=
  if d.time < w.1 + l.period then
    if d.reset = false ∧ w.2 + d.amount ≤ l.cap then some (w.1, w.2 + d.amount) else none
  else if d.reset = true ∧ d.amount ≤ l.cap then some (d.time, d.amount) else none

/-- The window after a sequence of conversions, if the limiter admits each. -/
def accepts (l : Limiter) (w : Int × Nat) (ds : List Conversion) : Option (Int × Nat) :=
  ds.foldlM l.take w

/-- The most conversions in `[T, T + period)` can still total from window
`w`: its remainder, plus a new window if `w` ends inside. -/
def room (l : Limiter) (w : Int × Nat) (T : Int) : Nat :=
  if T < w.1 then l.cap - w.2
  else if T < w.1 + l.period then (l.cap - w.2) + l.cap
  else 2 * l.cap

variable (l : Limiter) {w w' : Int × Nat} {d : Conversion} {ds : List Conversion}

theorem take_eq_some : l.take w d = some w' ↔
    (d.time < w.1 + l.period ∧ d.reset = false ∧ w.2 + d.amount ≤ l.cap ∧ w' = (w.1, w.2 + d.amount)) ∨
    (w.1 + l.period ≤ d.time ∧ d.reset = true ∧ d.amount ≤ l.cap ∧ w' = (d.time, d.amount)) := by
  unfold take
  split_ifs with ht hc hc'
  · -- before the window's end, admitted
    rw [Option.some.injEq]
    constructor
    · rintro rfl
      exact .inl ⟨ht, hc.1, hc.2, rfl⟩
    · rintro (⟨-, -, -, rfl⟩ | ⟨h, -⟩)
      · rfl
      · omega
  · -- before the window's end, refused
    simp only [false_iff, not_or, not_and]
    exact ⟨fun _ h1 h2 _ => hc ⟨h1, h2⟩, fun h => absurd h (by omega)⟩
  · -- at or after the window's end, admitted
    rw [Option.some.injEq]
    constructor
    · rintro rfl
      exact .inr ⟨by omega, hc'.1, hc'.2, rfl⟩
    · rintro (⟨h, -⟩ | ⟨-, -, -, rfl⟩)
      · exact absurd h ht
      · rfl
  · -- at or after the window's end, refused
    simp only [false_iff, not_or, not_and]
    exact ⟨fun h => absurd h ht, fun _ h1 h2 _ => hc' ⟨h1, h2⟩⟩

/-- A conversion the limiter takes leaves the window's start where it was,
or moves it forward to the conversion's time. -/
theorem take_start (h : l.take w d = some w') : w.1 ≤ w'.1 ∧ w'.1 ≤ max w.1 d.time := by
  rcases l.take_eq_some.mp h with ⟨-, -, -, rfl⟩ | ⟨hend, -, -, rfl⟩
  · exact ⟨le_rfl, le_max_left _ _⟩
  · exact ⟨by omega, le_max_right _ _⟩

@[simp] theorem accepts_nil (w : Int × Nat) : l.accepts w [] = some w := rfl

theorem accepts_cons : l.accepts w (d :: ds) = (l.take w d).bind fun w₁ => l.accepts w₁ ds := rfl

theorem accepts_append (ds' : List Conversion) :
    l.accepts w (ds ++ ds') = (l.accepts w ds).bind fun w₁ => l.accepts w₁ ds' := by
  simp only [accepts, List.foldlM_append]
  rfl

theorem accepts_cons_eq_some : l.accepts w (d :: ds) = some w' ↔ ∃ w₁, l.take w d = some w₁ ∧ l.accepts w₁ ds = some w' := by
  rw [accepts_cons, Option.bind_eq_some_iff]

theorem take_count {w₁ : Int × Nat} (h : l.take w d = some w₁) : d.amount ≤ w₁.2 ∧ w₁.2 ≤ l.cap := by
  rcases (l.take_eq_some).mp h with ⟨-, -, hc, rfl⟩ | ⟨-, -, hc, rfl⟩
  · exact ⟨by simp, hc⟩
  · exact ⟨le_refl _, hc⟩

theorem accepts_count_le (h : l.accepts w ds = some w') (hw : w.2 ≤ l.cap) : w'.2 ≤ l.cap := by
  induction ds generalizing w with
  | nil =>
    cases h
    exact hw
  | cons d ds ih =>
    obtain ⟨w₁, h1, h2⟩ := (l.accepts_cons_eq_some).mp h
    exact ih h2 (l.take_count h1).2

theorem accepts_quiet (h : l.accepts w ds = some w') (hq : ∀ d ∈ ds, d.reset = false) :
    w'.2 = w.2 + (ds.map (·.amount)).sum := by
  induction ds generalizing w with
  | nil =>
    cases h
    simp
  | cons d ds ih =>
    obtain ⟨w₁, h1, h2⟩ := (l.accepts_cons_eq_some).mp h
    have hw₁ : w₁.2 = w.2 + d.amount := by
      rcases (l.take_eq_some).mp h1 with ⟨-, -, -, rfl⟩ | ⟨-, hr, -⟩
      · rfl
      · rw [hq d List.mem_cons_self] at hr
        cases hr
    rw [ih h2 fun d' hd' => hq d' (List.mem_cons_of_mem d hd'), hw₁, List.map_cons, List.sum_cons]
    omega

theorem sum_le_cap {pre mid post : List Conversion} (h : l.accepts w (pre ++ mid ++ post) = some w')
    (hq : ∀ d ∈ mid.tail, d.reset = false) : (mid.map (·.amount)).sum ≤ l.cap := by
  rw [l.accepts_append, l.accepts_append, Option.bind_assoc, Option.bind_eq_some_iff] at h
  obtain ⟨w₁, -, h⟩ := h
  rw [Option.bind_eq_some_iff] at h
  obtain ⟨w₂, hmid, -⟩ := h
  cases mid with
  | nil => simp
  | cons d rest =>
    obtain ⟨w₃, h1, h2⟩ := (l.accepts_cons_eq_some).mp hmid
    -- the first conversion leaves at least its amount counted, the others add theirs
    obtain ⟨hd, hcap⟩ := l.take_count h1
    have hsum := l.accepts_quiet h2 hq
    have hend := l.accepts_count_le h2 hcap
    rw [List.map_cons, List.sum_cons]
    omega

theorem room_le (w : Int × Nat) (T : Int) : l.room w T ≤ 2 * l.cap := by
  unfold room
  split_ifs <;> omega

end Limiter

namespace Conversion

theorem totalWithin_cons (d : Conversion) (ds : List Conversion) (T : Int) (H : Nat) :
    totalWithin (d :: ds) T H = (if T ≤ d.time ∧ d.time < T + H then d.amount else 0) + totalWithin ds T H := by
  unfold totalWithin
  by_cases h : T ≤ d.time ∧ d.time < T + H
  · rw [List.filter_cons_of_pos (by simpa using h), if_pos h, List.map_cons, List.sum_cons]
  · rw [List.filter_cons_of_neg (by simpa using h), if_neg h, Nat.zero_add]

theorem totalWithin_eq_zero {ds : List Conversion} {T : Int} {H : Nat} (h : ∀ d ∈ ds, T + H ≤ d.time) :
    totalWithin ds T H = 0 := by
  unfold totalWithin
  rw [List.filter_eq_nil_iff.mpr fun d hd => by simpa using fun _ => h d hd]
  rfl

end Conversion

namespace Limiter

open Conversion

variable (l : Limiter) {w w' : Int × Nat} {ds : List Conversion}

/-- What admitted conversions with times that never go back total in an
interval of one period is within the room the starting window leaves. -/
theorem within_le_room (h : l.accepts w ds = some w') (hs : (ds.map (·.time)).Pairwise (· ≤ ·)) (T : Int) :
    totalWithin ds T l.period ≤ l.room w T := by
  induction ds generalizing w with
  | nil => simp [totalWithin]
  | cons d ds ih =>
    obtain ⟨w₁, h1, h2⟩ := (l.accepts_cons_eq_some).mp h
    rw [List.map_cons, List.pairwise_cons] at hs
    have hih := ih h2 hs.2
    have hlater : ∀ e ∈ ds, d.time ≤ e.time := fun e he => hs.1 _ (List.mem_map_of_mem he)
    rcases (l.take_eq_some).mp h1 with ⟨ht, -, hc, rfl⟩ | ⟨ht, -, hc, rfl⟩
    · -- inside the window: the conversion takes its amount out of what the window has left
      rw [totalWithin_cons]
      unfold room at hih ⊢
      split_ifs at hih ⊢ <;> omega
    · -- a new window opens at the conversion's time
      by_cases hT : T < w.1
      · -- an interval that starts before the old window ends before the new one opens
        have hz : totalWithin (d :: ds) T l.period = 0 := by
          refine totalWithin_eq_zero fun e he => ?_
          rcases List.mem_cons.mp he with rfl | he
          · omega
          · have := hlater e he
            omega
        rw [hz]
        exact Nat.zero_le _
      · rw [totalWithin_cons]
        unfold room at hih ⊢
        split_ifs at hih ⊢ <;> omega

/-- Admitted conversions with times that never go back total at most twice
the cap in every interval of one period. -/
theorem within_le_two_caps (h : l.accepts w ds = some w') (hs : (ds.map (·.time)).Pairwise (· ≤ ·)) (T : Int) :
    totalWithin ds T l.period ≤ 2 * l.cap :=
  (l.within_le_room h hs T).trans (l.room_le w T)

end Limiter

/-! ## The window of a channel's counters -/

theorem wrapTime_of_lt {i : Int} (h0 : 0 ≤ i) (h : i < 2 ^ 63) : wrapTime i = i := by
  have h63 : Nat.pow 2 63 = 2 ^ 63 := rfl
  have h64 : Int.pow 2 64 = 2 ^ 64 := rfl
  have hmod : i % 2 ^ 64 = i := Int.emod_eq_of_lt h0 (by omega)
  unfold wrapTime
  simp only [h63, h64, hmod]
  rw [if_pos (by omega)]
  omega

theorem snapshot_inWindow {c : Counters} {hours : Nat} {now : Int} (h0 : 0 ≤ c.periodAnchor)
    (h : c.periodAnchor + hours * 3600 < 2 ^ 63) :
    (snapshot c hours now).inWindow = decide (now < c.periodAnchor + hours * 3600) := by
  simp only [snapshot, wrapTime_of_lt (by omega) h, gt_iff_lt]

theorem snapshot_issued (c : Counters) (hours : Nat) (now : Int) :
    (snapshot c hours now).issued = if (snapshot c hours now).inWindow then c.periodIssued else 0 := rfl

/-- A conversion opens a window exactly when the old one has ended, and the
new window starts at the conversion's time. -/
theorem Snapshot.apply_reset {w : Snapshot} {c c' : Counters} {x : Nat} {reset : Bool}
    (h : w.apply c x = .ok (c', reset)) :
    reset = !w.inWindow ∧ c'.periodAnchor = if w.inWindow then c.periodAnchor else w.now := by
  unfold Snapshot.apply at h
  cases hl : Amount.checkedAdd c.lifetimeIssued x with
  | error f => simp [hl, bind, Except.bind] at h
  | ok lifetime =>
    cases hp : Amount.checkedAdd w.issued x with
    | error f => simp [hl, hp, bind, Except.bind] at h
    | ok period =>
      simp only [hl, hp, bind, Except.bind] at h
      split at h <;> simp only [pure, Except.pure, Except.ok.injEq, Prod.mk.injEq] at h <;>
        obtain ⟨rfl, rfl⟩ := h <;> simp_all

/-- An admitted conversion moves the window as the limiter does, while
the window's end is a signed 64-bit time. -/
theorem Snapshot.limiter_take {c c' : Counters} {hours x : Nat} {now : Int} {reset : Bool} (h0 : 0 ≤ c.periodAnchor)
    (hend : c.periodAnchor + hours * 3600 < 2 ^ 63) (hcaps : (snapshot c hours now).checkCaps c x = .ok ())
    (happ : (snapshot c hours now).apply c x = .ok (c', reset)) :
    (⟨c.periodCap, hours * 3600⟩ : Limiter).take (c.periodAnchor, c.periodIssued) ⟨now, x, reset⟩ =
      some (c'.periodAnchor, c'.periodIssued) := by
  obtain ⟨-, hle, -, -⟩ := checkCaps_eq_ok.mp hcaps
  obtain ⟨-, hpi, -, -, -, -⟩ := Snapshot.apply_eq_ok happ
  obtain ⟨hreset, hanchor⟩ := Snapshot.apply_reset happ
  have hin : (snapshot c hours now).inWindow = decide (now < c.periodAnchor + hours * 3600) :=
    snapshot_inWindow h0 hend
  rw [Limiter.take_eq_some]
  by_cases hrun : now < c.periodAnchor + hours * 3600
  · -- the window still runs: the amount joins its count
    have hw : (snapshot c hours now).inWindow = true := by simp [hin, hrun]
    have hi : (snapshot c hours now).issued = c.periodIssued := by rw [snapshot_issued, if_pos hw]
    rw [hi] at hle hpi
    refine .inl ⟨hrun, by simp [hreset, hw], hle, ?_⟩
    rw [hanchor, if_pos hw, hpi]
  · -- the window has ended: a new one opens now with the amount
    have hw : (snapshot c hours now).inWindow = false := by simp [hin, hrun]
    have hi : (snapshot c hours now).issued = 0 := by rw [snapshot_issued, hw]; rfl
    rw [hi, Nat.zero_add] at hle hpi
    refine .inr ⟨by simp only at hrun ⊢; omega, by simp [hreset, hw], hle, ?_⟩
    rw [hanchor, if_neg (by simp [hw]), hpi]
    rfl

end Issuance.Channel
