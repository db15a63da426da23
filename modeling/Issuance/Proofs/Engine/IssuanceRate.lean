import Mathlib
import Issuance.Proofs.Engine.Windows
/-! # How fast a channel issues

While the period and the period cap stay fixed, a channel's windows follow
the fixed-window `Limiter` and obey its bounds. The window's end wraps near
the end of the signed 64-bit range, so clocks stay a period before it
(`AnchorsPast`). -/
namespace Issuance

open Store Channel Engine

namespace Channel

/-- Where the window of the channel of kind `k` under `id` starts and what it
has counted; the empty window at the epoch when there is no such channel. -/
def windowIn (L : Bytes → Option Bytes) (k : Kind) (id : ChannelId) : Int × Nat :=
  ((countersIn L k id).map fun c => (c.periodAnchor, c.periodIssued)).getD (0, 0)

theorem windowIn_of_some {L : Bytes → Option Bytes} {k : Kind} {id : ChannelId} {c : Counters}
    (h : countersIn L k id = some c) : windowIn L k id = (c.periodAnchor, c.periodIssued) := by
  simp [windowIn, h]

section
variable {hours : Nat} {now : Int} {x y : Option Counters} {d : Option Conversion}

theorem WindowStep.exists_some (h : WindowStep hours now x d y) : ∃ c', y = some c' := by
  cases h <;> exact ⟨_, rfl⟩

theorem WindowStep.of_none (h : WindowStep hours now none d y) : d = none ∧ y = some {} := by
  cases h
  exact ⟨rfl, rfl⟩

theorem WindowStep.time_eq {d : Conversion} (h : WindowStep hours now x (some d) y) : d.time = now := by
  cases h
  rfl

/-- A window step within the range leaves a window started between the
epoch and its clock, if the one it found started before `T`. -/
theorem WindowStep.anchor_le {c' : Counters} {T : Int} (h : WindowStep hours now x d (some c'))
    (hx : ∀ c, x = some c → 0 ≤ c.periodAnchor ∧ c.periodAnchor ≤ max T 0) (hT : T ≤ now)
    (hnow : now < 2 ^ 63) : 0 ≤ c'.periodAnchor ∧ c'.periodAnchor ≤ max now 0 := by
  cases h with
  | create => exact ⟨le_rfl, le_max_right _ _⟩
  | @setCaps c _ _ =>
    obtain ⟨h0, hle⟩ := hx _ rfl
    have hlt : c.periodAnchor < 2 ^ 63 := by omega
    simp only [Counters.reread_periodAnchor, hlt]
    omega
  | @convert c c₁ _ _ _ _ happ =>
    obtain ⟨h0, hle⟩ := hx _ rfl
    -- the conversion keeps the anchor or moves it to its own time, which
    -- reads back as the epoch if it is before it
    have ha : c₁.periodAnchor = c.periodAnchor ∨ c₁.periodAnchor = now := (Snapshot.apply_eq_ok happ).2.2.2.2.2
    have hlt : c₁.periodAnchor < 2 ^ 63 := by omega
    simp only [Counters.reread_periodAnchor, hlt]
    omega

/-- A window step moves the window as the limiter takes its conversion, when
the window found starts after the epoch and ends within the range. -/
theorem WindowStep.takes {c c' : Counters} (h : WindowStep hours now (some c) d (some c'))
    (h0 : 0 ≤ c.periodAnchor) (hend : c.periodAnchor + hours * 3600 < 2 ^ 63) (hnow : now < 2 ^ 63) :
    (⟨c.periodCap, hours * 3600⟩ : Limiter).accepts (c.periodAnchor, c.periodIssued) d.toList =
      some (c'.periodAnchor, c'.periodIssued) := by
  have hlt : c.periodAnchor < 2 ^ 63 := by omega
  cases h with
  | setCaps _ =>
    simp only [Counters.reread_of_anchor, h0, hlt]
    rfl
  | @convert _ c₁ _ _ _ hcaps happ =>
    have ht := Snapshot.limiter_take h0 hend hcaps happ
    -- the window now starts where it did or at the conversion's time
    have hstart := Limiter.take_start _ ht
    have h₁0 : 0 ≤ c₁.periodAnchor := by dsimp only at hstart; omega
    have h₁lt : c₁.periodAnchor < 2 ^ 63 := by dsimp only at hstart; omega
    simp only [Counters.reread_of_anchor, h₁0, h₁lt]
    simpa [Limiter.accepts_cons, Limiter.accepts_nil] using ht

end

end Channel

namespace Engine

/-- The conversions on the channel of kind `k` under `id` that the receipts
of a run record, in order. -/
def conversions (k : Kind) (id : ChannelId) (ℓs : List Label) : List Conversion :=
  ℓs.filterMap (Label.conversion k id)

theorem conversions_cons (k : Kind) (id : ChannelId) (ℓ : Label) (ℓs : List Label) :
    conversions k id (ℓ :: ℓs) = (ℓ.conversion k id).toList ++ conversions k id ℓs := by
  cases h : Label.conversion k id ℓ <;> simp [conversions, h]

/-- Settings, where there are any, give a rolling period of `hours`, and the
channel of kind `k` under `id`, where there is one, has the period cap `cap`. -/
def PeriodFixed (k : Kind) (id : ChannelId) (hours cap : Nat) (L : Bytes → Option Bytes) : Prop :=
  (∀ cfg : AppConfig, appConfigIn L = some cfg → cfg.rollingPeriodHours = hours) ∧
    ∀ c, countersIn L k id = some c → c.periodCap = cap

instance (k : Kind) (id : ChannelId) (hours cap : Nat) (L : Bytes → Option Bytes) :
    Decidable (PeriodFixed k id hours cap L) :=
  inferInstanceAs (Decidable ((∀ cfg : AppConfig, appConfigIn L = some cfg → cfg.rollingPeriodHours = hours) ∧
    ∀ c, countersIn L k id = some c → c.periodCap = cap))

/-- Every channel's window starts at or after the epoch, and at or before `T`
or the epoch. -/
def AnchorsPast (L : Bytes → Option Bytes) (T : Int) : Prop :=
  ∀ k id c, countersIn L k id = some c → 0 ≤ c.periodAnchor ∧ c.periodAnchor ≤ max T 0

theorem clocks_cons (ℓ : Label) (ℓs : List Label) : clocks (ℓ :: ℓs) = ℓ.clock.toList ++ clocks ℓs := by
  cases ℓ <;> rfl

/-- A run whose clocks are at or after `T` and never go back: the first
clock is at or after `T`, the rest at or after the first (or `T`). -/
theorem clocks_cons_after {ℓ : Label} {ℓs : List Label} {T : Int} (hT : ∀ t ∈ clocks (ℓ :: ℓs), T ≤ t)
    (h : (clocks (ℓ :: ℓs)).Pairwise (· ≤ ·)) :
    (∀ t ∈ ℓ.clock, T ≤ t) ∧ (∀ t ∈ clocks ℓs, ℓ.clock.getD T ≤ t) ∧ (clocks ℓs).Pairwise (· ≤ ·) := by
  cases ℓ with
  | op ctx o r =>
    simp only [clocks_op, List.mem_cons, forall_eq_or_imp, List.pairwise_cons] at hT h
    exact ⟨fun t ht => Option.some.inj ht ▸ hT.1, h.1, h.2⟩
  | call c r =>
    simp only [clocks_call] at hT h
    exact ⟨fun t ht => (nomatch ht), hT, h⟩

/-- Clocks that never go back, split between two runs: some time is at or
after every clock of the first and at or before every clock of the second. -/
theorem clocks_between {ℓs₁ ℓs₂ : List Label} (h : (clocks (ℓs₁ ++ ℓs₂)).Pairwise (· ≤ ·)) :
    ∃ T, (∀ t ∈ clocks ℓs₁, t ≤ T) ∧ ∀ t ∈ clocks ℓs₂, T ≤ t := by
  rw [clocks_append, List.pairwise_append] at h
  cases hcl : clocks ℓs₂ with
  | nil =>
    -- no clock comes after: any bound of the first run's clocks
    obtain ⟨T, hT⟩ := (clocks ℓs₁).toFinset.exists_le
    exact ⟨T, fun t ht => hT t (List.mem_toFinset.mpr ht), by simp⟩
  | cons t₀ rest =>
    rw [hcl] at h
    refine ⟨t₀, fun t ht => h.2.2 t ht t₀ List.mem_cons_self, fun t ht => ?_⟩
    rcases List.mem_cons.mp ht with rfl | ht
    · exact le_rfl
    · exact List.rel_of_pairwise_cons h.2.1 ht

section
variable {e : Engine} {S S' : Store} {k : Kind} {id : ChannelId}

theorem AnchorsPast.empty (T : Int) : AnchorsPast ({} : Store).get? T := by
  intro k id c hc
  cases k <;> simp [countersIn, mintChannelIn, burnChannelIn, recordAt, Store.get?] at hc

theorem AnchorsPast.mono {L : Bytes → Option Bytes} {T T' : Int} (hT : T ≤ T') (h : AnchorsPast L T) :
    AnchorsPast L T' := by
  intro k id c hc
  obtain ⟨h0, hle⟩ := h k id c hc
  exact ⟨h0, hle.trans (max_le_max hT le_rfl)⟩

theorem AnchorsPast.op {ctx : Context} {o : Op} {r : o.Result × List Event} {T : Int} (hS : Reachable e S)
    (hstep : (Label.op ctx o r).Step e S S') (hT : T ≤ ctx.now) (h : AnchorsPast S.get? T) :
    AnchorsPast S'.get? ctx.now := by
  intro k id c' hc'
  obtain ⟨hctx, hmv⟩ := hstep.moves_op hS k id
  rcases hmv with ⟨hsame, -⟩ | ⟨cfg, -, hw⟩
  · rw [hsame] at hc'
    exact (h.mono hT) k id c' hc'
  · rw [hc'] at hw
    exact hw.anchor_le (h k id) hT hctx.now

theorem AnchorsPast.call {c : BankCall} {r : c.Result} {T : Int} (hstep : (Label.call c r).Step e S S')
    (h : AnchorsPast S.get? T) : AnchorsPast S'.get? T := by
  intro k id c' hc'
  rw [(hstep.moves_call k id).1] at hc'
  exact h k id c' hc'

theorem Label.Step.anchorsPast {ℓ : Label} {T : Int} (hS : Reachable e S) (hstep : ℓ.Step e S S')
    (hT : ∀ t ∈ ℓ.clock, T ≤ t) (h : AnchorsPast S.get? T) : AnchorsPast S'.get? (ℓ.clock.getD T) := by
  cases ℓ with
  | op ctx o r => exact h.op hS hstep (hT ctx.now rfl)
  | call c r => exact h.call hstep

theorem Label.Step.conversion_time {ℓ : Label} {d : Conversion} (hS : Reachable e S) (hstep : ℓ.Step e S S')
    (hd : ℓ.conversion k id = some d) : ℓ.clock = some d.time := by
  cases ℓ with
  | op ctx o r =>
    obtain ⟨-, hmv⟩ := hstep.moves_op hS k id
    rw [hd] at hmv
    rcases hmv with ⟨-, hnone⟩ | ⟨cfg, -, hw⟩
    · exact absurd hnone (Option.some_ne_none d)
    · rw [hw.time_eq]
      rfl
  | call c r => simp [Label.conversion] at hd

/-- While the period and the channel's cap are as fixed, a step moves the
channel's window as the limiter takes the conversion its receipt records. -/
theorem Label.Step.takes {ℓ : Label} {hours cap : Nat} {T : Int} (hS : Reachable e S) (hstep : ℓ.Step e S S')
    (hfix : PeriodFixed k id hours cap S.get?) (hpast : AnchorsPast S.get? T) (hT : ∀ t ∈ ℓ.clock, T ≤ t)
    (hfit : ∀ t ∈ ℓ.clock, max t 0 + hours * 3600 < 2 ^ 63) :
    (⟨cap, hours * 3600⟩ : Limiter).accepts (windowIn S.get? k id) (ℓ.conversion k id).toList =
      some (windowIn S'.get? k id) := by
  cases ℓ with
  | op ctx o r =>
    obtain ⟨hctx, hmv⟩ := hstep.moves_op hS k id
    rcases hmv with ⟨hsame, hnone⟩ | ⟨cfg, hcfg, hw⟩
    · rw [hnone, windowIn, windowIn, hsame]
      rfl
    · -- the step runs at the fixed period
      rw [hfix.1 cfg hcfg] at hw
      obtain ⟨c', hc'⟩ := hw.exists_some
      rw [hc'] at hw
      rw [windowIn_of_some hc']
      cases hc : countersIn S.get? k id with
      | none =>
        -- the step creates the channel, with an empty window at the epoch
        rw [hc] at hw
        obtain ⟨hd, ⟨⟩⟩ := hw.of_none
        rw [hd, windowIn, hc]
        rfl
      | some c =>
        -- the channel has the fixed cap, and its window ends within the range
        rw [hc] at hw
        obtain ⟨h0, hle⟩ := hpast k id c hc
        have hend : c.periodAnchor + hours * 3600 < 2 ^ 63 := by
          have := hfit ctx.now rfl
          have := hT ctx.now rfl
          omega
        rw [windowIn_of_some hc, ← hfix.2 c hc]
        exact hw.takes h0 hend hctx.now
  | call c r =>
    rw [windowIn, windowIn, (hstep.moves_call k id).1]
    rfl

theorem Run.takes {ℓs : List Label} {hours cap : Nat} {T : Int}
    (h : Run e (fun _ _ S' => PeriodFixed k id hours cap S'.get?) S ℓs S') (hS : Reachable e S)
    (hfix : PeriodFixed k id hours cap S.get?) (hpast : AnchorsPast S.get? T) (hT : ∀ t ∈ clocks ℓs, T ≤ t)
    (hsorted : (clocks ℓs).Pairwise (· ≤ ·)) (hfit : ∀ t ∈ clocks ℓs, max t 0 + hours * 3600 < 2 ^ 63) :
    (⟨cap, hours * 3600⟩ : Limiter).accepts (windowIn S.get? k id) (conversions k id ℓs) =
      some (windowIn S'.get? k id) := by
  induction h generalizing T with
  | nil => rfl
  | @cons S S₁ S' ℓ ℓs hstep hok _ ih =>
    obtain ⟨hT₁, hTs, hsorted⟩ := clocks_cons_after hT hsorted
    rw [clocks_cons, List.forall_mem_append] at hfit
    have hfit₁ : ∀ t ∈ ℓ.clock, max t 0 + hours * 3600 < 2 ^ 63 := fun t ht => hfit.1 t (by simpa using ht)
    rw [conversions_cons, Limiter.accepts_append, hstep.takes hS hfix hpast hT₁ hfit₁, Option.bind_some]
    exact ih (hstep.reachable hS) hok (hstep.anchorsPast hS hT₁ hpast) hTs hsorted hfit.2

theorem Run.conversion_times {ok : Store → Label → Store → Prop} {ℓs : List Label} (h : Run e ok S ℓs S')
    (hS : Reachable e S) : ((conversions k id ℓs).map (·.time)).Sublist (clocks ℓs) := by
  induction h with
  | nil => exact List.Sublist.slnil
  | @cons S S₁ S' ℓ ℓs hstep _ _ ih =>
    rw [conversions_cons, List.map_append, clocks_cons]
    refine List.Sublist.append ?_ (ih (hstep.reachable hS))
    cases hd : Label.conversion k id ℓ with
    | none => exact List.nil_sublist _
    | some d => simp [hstep.conversion_time hS hd]

/-- With monotone clocks and fixed period and cap, recorded conversions
where only the first opened a window total at most the cap, and any period
at most twice it. -/
theorem conversions_within_caps {ℓs₁ ℓs₂ : List Label} {S₁ S₂ : Store} {hours cap : Nat}
    (h₁ : Run e (fun _ _ _ => True) {} ℓs₁ S₁) (hfix : PeriodFixed k id hours cap S₁.get?)
    (h₂ : Run e (fun _ _ S' => PeriodFixed k id hours cap S'.get?) S₁ ℓs₂ S₂)
    (hclock : (clocks (ℓs₁ ++ ℓs₂)).Pairwise (· ≤ ·))
    (hfit : ∀ t ∈ clocks ℓs₂, max t 0 + hours * 3600 < 2 ^ 63) :
    (∀ pre mid post, conversions k id ℓs₂ = pre ++ mid ++ post → (∀ d ∈ mid.tail, d.reset = false) →
      (mid.map (·.amount)).sum ≤ cap) ∧
    ∀ T : Int, Conversion.totalWithin (conversions k id ℓs₂) T (hours * 3600) ≤ 2 * cap := by
  obtain ⟨T, hT₁, hT₂⟩ := clocks_between hclock
  rw [clocks_append, List.pairwise_append] at hclock
  -- before the segment, every anchor lies between the epoch and a time at or
  -- before the segment's clocks
  have hpast : AnchorsPast S₁.get? T :=
    h₁.clocked_of_forall .refl (fun _ _ _ hT h => h.mono hT)
      (fun _ _ _ _ _ _ hS hstep _ hT h => h.op hS hstep hT) (fun _ _ _ _ _ hstep h => h.call hstep)
      AnchorsPast.empty hclock.1 hT₁
  have hS₁ : Reachable e S₁ := h₁.reachable .refl
  have hrun := h₂.takes hS₁ hfix hpast hT₂ hclock.2.1 hfit
  refine ⟨fun pre mid post hsplit hq => ?_, fun T' => ?_⟩
  · rw [hsplit] at hrun
    exact Limiter.sum_le_cap _ hrun hq
  · exact Limiter.within_le_two_caps _ hrun (List.Pairwise.sublist (h₂.conversion_times hS₁) hclock.2.1) T'

/-- The sample trade mints on `basket` at its fixed 12-hour period and cap of
1000, and its conversions keep within the cap. -/
theorem conversions_within_caps_over_trade :
    Run Sample.engine (fun _ _ _ => True) {} (Script.labels Sample.engine Sample.setup {}) Sample.opened ∧ PeriodFixed .mint Sample.basket 12 1000 Sample.opened.get? ∧
      Run Sample.engine (fun _ _ S' => PeriodFixed .mint Sample.basket 12 1000 S'.get?) Sample.opened (Script.labels Sample.engine Sample.trade Sample.opened) Sample.traded ∧
      (clocks (Script.labels Sample.engine Sample.setup {} ++ Script.labels Sample.engine Sample.trade Sample.opened)).Pairwise (· ≤ ·) ∧ (∀ t ∈ clocks (Script.labels Sample.engine Sample.trade Sample.opened), max t 0 + 12 * 3600 < 2 ^ 63) ∧
      ((∀ pre mid post, conversions .mint Sample.basket (Script.labels Sample.engine Sample.trade Sample.opened) = pre ++ mid ++ post →
        (∀ d ∈ mid.tail, d.reset = false) → (mid.map (·.amount)).sum ≤ 1000) ∧
      ∀ T : Int, Conversion.totalWithin (conversions .mint Sample.basket (Script.labels Sample.engine Sample.trade Sample.opened)) T (12 * 3600) ≤ 2 * 1000) := by
  have hs := (Sample.stages Sample.history_runs).1
  have h₁ : Run Sample.engine (fun _ _ _ => True) {} (Script.labels Sample.engine Sample.setup {}) Sample.opened :=
    Script.run_sound (fun _ _ _ _ => trivial) (Script.run_eq hs)
  have hfix : PeriodFixed .mint Sample.basket 12 1000 Sample.opened.get? := by decide +kernel
  have ht : (Script.run Sample.engine (fun _ _ S' => decide (PeriodFixed .mint Sample.basket 12 1000 S'.get?)) Sample.trade Sample.opened).isSome := by
    decide +kernel
  have h₂ : Run Sample.engine (fun _ _ S' => PeriodFixed .mint Sample.basket 12 1000 S'.get?) Sample.opened (Script.labels Sample.engine Sample.trade Sample.opened) Sample.traded :=
    Script.run_decide ht
  have hclock : (clocks (Script.labels Sample.engine Sample.setup {} ++ Script.labels Sample.engine Sample.trade Sample.opened)).Pairwise (· ≤ ·) := by
    rw [clocks_append, Script.clocks_run (Script.run_eq hs), Script.clocks_run (Script.run_eq ht)]
    decide
  have hfit : ∀ t ∈ clocks (Script.labels Sample.engine Sample.trade Sample.opened), max t 0 + 12 * 3600 < 2 ^ 63 := by
    rw [Script.clocks_run (Script.run_eq ht)]
    decide
  exact ⟨h₁, hfix, h₂, hclock, hfit, conversions_within_caps h₁ hfix h₂ hclock hfit⟩

end

end Engine

end Issuance
