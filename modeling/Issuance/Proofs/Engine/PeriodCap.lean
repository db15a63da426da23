import Mathlib
import Issuance.Proofs.Engine.Windows
/-! # The period cap holds in every window

With a clock that never goes back and a period never lengthened, a running
window counts within its period cap on every reachable store
(`Counters.CapSafe`), clocks a period before the wrap. -/
namespace Issuance

open Store Channel Engine

/-- Counters whose window starts after the epoch, ends at a signed 64-bit
time, and counts at most the cap if still running at `T`. -/
structure Counters.CapSafe (c : Counters) (hours : Nat) (T : Int) : Prop where
  anchor_nonneg : 0 ≤ c.periodAnchor
  end_lt : c.periodAnchor + hours * 3600 < 2 ^ 63
  issued_le : T < c.periodAnchor + hours * 3600 → c.periodIssued ≤ c.periodCap

namespace Counters.CapSafe

variable {c : Counters} {hours : Nat} {T : Int}

theorem mono (h : c.CapSafe hours T) {hours' : Nat} {T' : Int} (hT : T ≤ T') (hh : hours' ≤ hours) :
    c.CapSafe hours' T' := by
  have hle : c.periodAnchor + hours' * 3600 ≤ c.periodAnchor + hours * 3600 := by
    have := Nat.mul_le_mul_right 3600 hh
    omega
  exact ⟨h.anchor_nonneg, lt_of_le_of_lt hle h.end_lt, fun hr => h.issued_le (by omega)⟩

theorem snapshot_issued_le (h : c.CapSafe hours T) {now : Int} (hn : T ≤ now) :
    (snapshot c hours now).issued ≤ c.periodCap := by
  rw [snapshot_issued, snapshot_inWindow h.anchor_nonneg h.end_lt]
  by_cases hr : now < c.periodAnchor + hours * 3600
  · rw [decide_eq_true hr, if_pos rfl]
    exact h.issued_le (by omega)
  · rw [decide_eq_false hr]
    exact Nat.zero_le _

theorem reread (h : c.CapSafe hours T) : c.reread.CapSafe hours T := by
  have hend := h.end_lt
  rw [Counters.reread_of_anchor h.anchor_nonneg (by omega)]
  exact h

theorem default (hh : hours * 3600 < 2 ^ 63) : ({} : Counters).CapSafe hours T :=
  ⟨le_refl _, by simp only; omega, fun _ => Nat.zero_le _⟩

theorem setCaps (h : c.CapSafe hours T) {l : Limits} {now : Int}
    (hcaps : checkCapsAgainst c l hours now = .ok ()) :
    ({ c with lifetimeCap := l.lifetimeCap, periodCap := l.periodCap } : Counters).CapSafe hours now := by
  have hw := (checkCapsAgainst_eq_ok.mp hcaps).2
  rw [snapshot_issued, snapshot_inWindow h.anchor_nonneg h.end_lt] at hw
  refine ⟨h.anchor_nonneg, h.end_lt, fun hr => ?_⟩
  rw [decide_eq_true hr, if_pos rfl] at hw
  exact hw

/-- A conversion the caps admit keeps the window within its cap from its
clock on, when its clock plus the period fits the range. -/
theorem convert (h : c.CapSafe hours T) {c' : Counters} {x fee : Nat} {reset : Bool} {now : Int}
    (hfit : max now 0 + hours * 3600 < 2 ^ 63) (hcaps : (snapshot c hours now).checkCaps c x = .ok ())
    (happ : (snapshot c hours now).apply c x = .ok (c', reset)) :
    ({ c' with accumulatedFee := fee } : Counters).CapSafe hours now := by
  have htake := Snapshot.limiter_take h.anchor_nonneg h.end_lt hcaps happ
  obtain ⟨-, -, -, hcap, -, -⟩ := Snapshot.apply_eq_ok happ
  -- the limiter's step says where the window now starts and what it has counted
  rcases (Limiter.take_eq_some _).mp htake with ⟨-, -, hle, hw⟩ | ⟨hend, -, hle, hw⟩
  · simp only [Prod.mk.injEq] at hw
    refine ⟨hw.1 ▸ h.anchor_nonneg, hw.1 ▸ h.end_lt, fun _ => ?_⟩
    simp only [hw.2, hcap]
    exact hle
  · simp only [Prod.mk.injEq] at hw
    dsimp only at hend hw
    have h0 := h.anchor_nonneg
    refine ⟨by simp only [hw.1]; omega, by simp only [hw.1]; omega, fun _ => ?_⟩
    simp only [hw.2, hcap]
    exact hle

end Counters.CapSafe

/-- One step moves counters that are within their cap to counters within
their cap from its clock on, when its clock plus the period fits the range. -/
theorem Channel.WindowStep.capSafe {hours : Nat} {now T : Int} {x : Option Counters} {d : Option Conversion} {c' : Counters}
    (h : WindowStep hours now x d (some c')) (hx : ∀ c, x = some c → c.CapSafe hours T)
    (hfit : max now 0 + hours * 3600 < 2 ^ 63) : c'.CapSafe hours now := by
  cases h with
  | create => exact Counters.CapSafe.default (by omega)
  | setCaps hcaps => exact ((hx _ rfl).setCaps hcaps).reread
  | convert hcaps happ => exact ((hx _ rfl).convert hfit hcaps happ).reread

namespace Engine

/-- A step that does not lengthen the rolling period in force. -/
def PeriodNotLonger (S S' : Store) : Prop :=
  ∀ cfg : AppConfig, appConfigIn S.get? = some cfg →
    ∃ cfg' : AppConfig, appConfigIn S'.get? = some cfg' ∧ cfg'.rollingPeriodHours ≤ cfg.rollingPeriodHours

/-- A step whose clock, or the epoch if the clock is before it, is at least
one period in force before the end of the signed 64-bit range. -/
def WindowEndsFit (S : Store) (ℓ : Label) : Prop :=
  ∀ cfg : AppConfig, appConfigIn S.get? = some cfg → ∀ t ∈ ℓ.clock, max t 0 + cfg.rollingPeriodHours * 3600 < 2 ^ 63

instance (S S' : Store) : Decidable (PeriodNotLonger S S') :=
  inferInstanceAs (Decidable (∀ cfg : AppConfig, appConfigIn S.get? = some cfg →
    ∃ cfg' : AppConfig, appConfigIn S'.get? = some cfg' ∧ cfg'.rollingPeriodHours ≤ cfg.rollingPeriodHours))

instance (S : Store) (ℓ : Label) : Decidable (WindowEndsFit S ℓ) :=
  inferInstanceAs (Decidable (∀ cfg : AppConfig, appConfigIn S.get? = some cfg →
    ∀ t ∈ ℓ.clock, max t 0 + cfg.rollingPeriodHours * 3600 < 2 ^ 63))

/-- Every channel of the view has settings beside it, and its window at their
period is within its cap from `T` on. -/
def PeriodSafe (L : Bytes → Option Bytes) (T : Int) : Prop :=
  ∀ k id c, countersIn L k id = some c → ∃ cfg : AppConfig, appConfigIn L = some cfg ∧ c.CapSafe cfg.rollingPeriodHours T

section
variable {e : Engine} {S S' : Store}

theorem PeriodSafe.empty (T : Int) : PeriodSafe ({} : Store).get? T := by
  intro k id c hc
  cases k <;> simp [countersIn, mintChannelIn, burnChannelIn, recordAt, Store.get?] at hc

theorem PeriodSafe.mono {L : Bytes → Option Bytes} {T T' : Int} (hT : T ≤ T') (h : PeriodSafe L T) : PeriodSafe L T' := by
  intro k id c hc
  obtain ⟨cfg, hcfg, hsafe⟩ := h k id c hc
  exact ⟨cfg, hcfg, hsafe.mono hT le_rfl⟩

/-- An operation that does not lengthen the period and whose clock, at or
after `T`, fits the range keeps every window within its cap, from its clock
on. -/
theorem PeriodSafe.op {ctx : Context} {o : Op} {r : o.Result × List Event} {T : Int} (hS : Reachable e S)
    (hstep : (Label.op ctx o r).Step e S S') (hlonger : PeriodNotLonger S S') (hfit : WindowEndsFit S (.op ctx o r))
    (hT : T ≤ ctx.now) (hI : PeriodSafe S.get? T) : PeriodSafe S'.get? ctx.now := by
  intro k id c' hc'
  obtain ⟨-, hmv⟩ := hstep.moves_op hS k id
  rcases hmv with ⟨hsame, -⟩ | ⟨cfg, hcfg, hw⟩
  · -- the channel is as it was, and so is its window
    rw [hsame] at hc'
    obtain ⟨cfg, hcfg, hsafe⟩ := hI k id c' hc'
    obtain ⟨cfg', hcfg', hle⟩ := hlonger cfg hcfg
    exact ⟨cfg', hcfg', hsafe.mono hT hle⟩
  · -- the channel moved by a window step at the period in force
    obtain ⟨cfg', hcfg', hle⟩ := hlonger cfg hcfg
    have hx : ∀ c, countersIn S.get? k id = some c → c.CapSafe cfg.rollingPeriodHours T := by
      intro c hc
      obtain ⟨cfg₀, hcfg₀, hsafe⟩ := hI k id c hc
      rw [hcfg, Option.some.injEq] at hcfg₀
      exact hcfg₀ ▸ hsafe
    rw [hc'] at hw
    exact ⟨cfg', hcfg', (hw.capSafe hx (hfit cfg hcfg ctx.now rfl)).mono le_rfl hle⟩

theorem PeriodSafe.call {c : BankCall} {r : c.Result} {T : Int} (hstep : (Label.call c r).Step e S S')
    (hI : PeriodSafe S.get? T) : PeriodSafe S'.get? T := by
  intro k id c' hc'
  obtain ⟨hsame, hcfg⟩ := hstep.moves_call k id
  rw [hsame] at hc'
  rw [hcfg]
  exact hI k id c' hc'

/-- Along a run from empty with monotone clocks and periods never
lengthened, every running window counts within its cap. -/
theorem window_within_period_cap {ℓs : List Label}
    (h : Run e (fun S ℓ S' => PeriodNotLonger S S' ∧ WindowEndsFit S ℓ) {} ℓs S)
    (hclock : (clocks ℓs).Pairwise (· ≤ ·)) (now : Int) (hnow : ∀ t ∈ clocks ℓs, t ≤ now) :
    ∀ cfg : AppConfig, appConfigIn S.get? = some cfg →
      (∀ id c, mintChannelIn S.get? id = some c →
        (snapshot c.counters cfg.rollingPeriodHours now).issued ≤ c.counters.periodCap) ∧
      ∀ id c, burnChannelIn S.get? id = some c →
        (snapshot c.counters cfg.rollingPeriodHours now).issued ≤ c.counters.periodCap := by
  have hsafe : PeriodSafe S.get? now :=
    h.clocked_of_forall .refl (fun _ _ _ hT hI => hI.mono hT)
      (fun _ _ _ _ _ _ hS₁ hstep hok hT hI => hI.op hS₁ hstep hok.1 hok.2 hT)
      (fun _ _ _ _ _ hstep hI => hI.call hstep) PeriodSafe.empty hclock hnow
  intro cfg hcfg
  -- at the settings of the store, every channel's window counts within its cap
  have hwin : ∀ k id c, countersIn S.get? k id = some c →
      (snapshot c cfg.rollingPeriodHours now).issued ≤ c.periodCap := by
    intro k id c hc
    obtain ⟨cfg₀, hcfg₀, hc₀⟩ := hsafe k id c hc
    rw [hcfg, Option.some.injEq] at hcfg₀
    subst hcfg₀
    exact hc₀.snapshot_issued_le le_rfl
  exact ⟨fun id c hc => hwin .mint id c.counters (by simp [countersIn, hc]),
    fun id c hc => hwin .burn id c.counters (by simp [countersIn, hc])⟩

/-- The sample history shortens the period and never lengthens it, so every
window of its channels counts within its cap after the trade. -/
theorem window_within_period_cap_after_trade :
    Run Sample.engine (fun S ℓ S' => PeriodNotLonger S S' ∧ WindowEndsFit S ℓ) {} (Script.labels Sample.engine Sample.history {}) Sample.traded ∧
      (clocks (Script.labels Sample.engine Sample.history {})).Pairwise (· ≤ ·) ∧ (∀ t ∈ clocks (Script.labels Sample.engine Sample.history {}), t ≤ 1700000240) ∧
      ∀ cfg : AppConfig, appConfigIn Sample.traded.get? = some cfg →
        (∀ id c, mintChannelIn Sample.traded.get? id = some c →
          (snapshot c.counters cfg.rollingPeriodHours 1700000240).issued ≤ c.counters.periodCap) ∧
        ∀ id c, burnChannelIn Sample.traded.get? id = some c →
          (snapshot c.counters cfg.rollingPeriodHours 1700000240).issued ≤ c.counters.periodCap := by
  have h : (Script.run Sample.engine (fun S ℓ S' => decide (PeriodNotLonger S S' ∧ WindowEndsFit S ℓ))
      Sample.history {}).isSome := by decide +kernel
  have hrun := Script.run_decide h
  rw [(Sample.stages h).2.2.2.2.2.2] at hrun
  have hcl := Script.clocks_run (Script.run_eq h)
  have hsorted : (clocks (Script.labels Sample.engine Sample.history {})).Pairwise (· ≤ ·) := by
    rw [hcl]; decide
  have hnow : ∀ t ∈ clocks (Script.labels Sample.engine Sample.history {}), t ≤ 1700000240 := by
    rw [hcl]; decide
  exact ⟨hrun, hsorted, hnow, window_within_period_cap hrun hsorted _ hnow⟩

end

end Engine

end Issuance
