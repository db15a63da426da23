import Mathlib
import Issuance.Proofs.Api.Bootstrap
import Issuance.Proofs.Engine.Script
/-! # Headroom

The cap check adds with overflow checks; `remaining` subtracts with
saturation and takes a minimum. Within stored widths the two agree on every
positive amount, so the reported remainder is the largest amount a
conversion's cap check admits. -/
namespace Issuance

open Store Txn Channel Engine

namespace Channel

/-- `r` is the headroom of counters `c` in the window `w`: the cap check
admits exactly the positive amounts up to `r`. -/
def Snapshot.Headroom (w : Snapshot) (c : Counters) (r : Nat) : Prop :=
  ∀ x, 0 < x → (w.checkCaps c x = .ok () ↔ x ≤ r)

theorem headroom_remaining {c : Counters} (hp : c.periodCap < Amount.bound) (hl : c.lifetimeCap < Amount.bound)
    (hours : Nat) (now : Int) : (snapshot c hours now).Headroom c (remaining c hours now) := by
  intro x hx
  rw [checkCaps_eq_ok]
  dsimp only [remaining]
  -- a count past its cap leaves zero, and no positive amount passes it
  omega

end Channel

section
variable {tx tx' : Tx} {cfg : AppConfig} {now : Int}

theorem rollingHours_of_settings {hours : Nat} (hcfg : appConfigIn tx.lookup = some cfg)
    (h : Returns rollingHours tx hours tx') : hours = cfg.rollingPeriodHours ∧ tx' = tx := by
  unfold rollingHours at h
  obtain ⟨r, t1, hr, h1⟩ := Returns.bind h
  obtain ⟨rfl, rfl⟩ := appConfig_returns (returns_mapFault.mp hr)
  rw [hcfg] at h1
  obtain ⟨rfl, rfl⟩ := Returns.pure h1
  exact ⟨rfl, rfl⟩

theorem Store.Txn.Returns.mapM_reads {α β : Type} {f : α → Txn β} {P : β → Prop}
    (hf : ∀ a r t, Returns (f a) tx r t → t = tx ∧ P r) {as : List α} {rs : List β} {t : Tx}
    (h : Returns (as.mapM f) tx rs t) : t = tx ∧ ∀ r ∈ rs, P r := by
  induction as generalizing rs t with
  | nil =>
    rw [List.mapM_nil] at h
    obtain ⟨rfl, rfl⟩ := Returns.pure h
    simp
  | cons a as ih =>
    rw [List.mapM_cons] at h
    obtain ⟨r, t1, h1, h2⟩ := Returns.bind h
    obtain ⟨ht1, hr⟩ := hf a r t1 h1
    rw [ht1] at h2
    obtain ⟨rs', t2, h3, h4⟩ := Returns.bind h2
    obtain ⟨ht2, hrs⟩ := ih h3
    obtain ⟨rfl, rfl⟩ := Returns.pure h4
    exact ⟨ht2, List.forall_mem_cons.mpr ⟨hr, hrs⟩⟩

theorem mintChannels_found {cs : List MintChannel} (h : Returns Channel.mintChannels tx cs tx') :
    tx' = tx ∧ ∀ c ∈ cs, ∃ id, mintChannelIn tx.lookup id = some c := by
  unfold Channel.mintChannels at h
  obtain ⟨bs, t1, h1, h2⟩ := Returns.bind h
  rw [h1.readList] at h2
  obtain ⟨os, t2, h3, h4⟩ := Returns.bind h2
  obtain ⟨ht2, hos⟩ := Returns.mapM_reads (P := fun o => ∀ c ∈ o, ∃ id, mintChannelIn tx.lookup id = some c)
    (fun b r t hb => by
      obtain ⟨rfl, rfl⟩ := mintChannel_returns hb
      exact ⟨rfl, fun c hc => ⟨_, hc⟩⟩) h3
  obtain ⟨rfl, rfl⟩ := Returns.pure h4
  refine ⟨ht2, fun c hc => ?_⟩
  obtain ⟨o, ho, hco⟩ := List.mem_filterMap.mp hc
  exact hos o ho c hco

theorem burnChannels_found {cs : List BurnChannel} (h : Returns Channel.burnChannels tx cs tx') :
    tx' = tx ∧ ∀ c ∈ cs, ∃ id, burnChannelIn tx.lookup id = some c := by
  unfold Channel.burnChannels at h
  obtain ⟨bs, t1, h1, h2⟩ := Returns.bind h
  rw [h1.readList] at h2
  obtain ⟨os, t2, h3, h4⟩ := Returns.bind h2
  obtain ⟨ht2, hos⟩ := Returns.mapM_reads (P := fun o => ∀ c ∈ o, ∃ id, burnChannelIn tx.lookup id = some c)
    (fun b r t hb => by
      obtain ⟨rfl, rfl⟩ := burnChannel_returns hb
      exact ⟨rfl, fun c hc => ⟨_, hc⟩⟩) h3
  obtain ⟨rfl, rfl⟩ := Returns.pure h4
  refine ⟨ht2, fun c hc => ?_⟩
  obtain ⟨o, ho, hco⟩ := List.mem_filterMap.mp hc
  exact hos o ho c hco

variable (hs : Channel.Sound tx.lookup) (hcfg : appConfigIn tx.lookup = some cfg)
include hs hcfg

theorem getMintChannel_headroom {id : ChannelId} {p : MintChannel × Nat} (h : Returns (getMintChannel now id) tx p tx') :
    (snapshot p.1.counters cfg.rollingPeriodHours now).Headroom p.1.counters p.2 := by
  unfold getMintChannel at h
  obtain ⟨o, t1, ho, h1⟩ := Returns.bind h
  obtain ⟨ht1, rfl⟩ := mintChannel_returns ho
  rw [ht1] at h1
  cases hc : mintChannelIn tx.lookup id with
  | none =>
    rw [hc] at h1
    exact absurd h1 not_returns_fail
  | some c =>
    rw [hc] at h1
    obtain ⟨hours, t2, hh, h2⟩ := Returns.bind h1
    obtain ⟨rfl, ht2⟩ := rollingHours_of_settings hcfg hh
    rw [ht2] at h2
    obtain ⟨rfl, -⟩ := Returns.pure h2
    have hst := (hs.mint id c hc).2.1.counters
    exact headroom_remaining hst.periodCap hst.lifetimeCap _ _

theorem getBurnChannel_headroom {id : ChannelId} {p : BurnChannel × Nat} (h : Returns (getBurnChannel now id) tx p tx') :
    (snapshot p.1.counters cfg.rollingPeriodHours now).Headroom p.1.counters p.2 := by
  unfold getBurnChannel at h
  obtain ⟨o, t1, ho, h1⟩ := Returns.bind h
  obtain ⟨ht1, rfl⟩ := burnChannel_returns ho
  rw [ht1] at h1
  cases hc : burnChannelIn tx.lookup id with
  | none =>
    rw [hc] at h1
    exact absurd h1 not_returns_fail
  | some c =>
    rw [hc] at h1
    obtain ⟨hours, t2, hh, h2⟩ := Returns.bind h1
    obtain ⟨rfl, ht2⟩ := rollingHours_of_settings hcfg hh
    rw [ht2] at h2
    obtain ⟨rfl, -⟩ := Returns.pure h2
    have hst := (hs.burn id c hc).2.1.counters
    exact headroom_remaining hst.periodCap hst.lifetimeCap _ _

theorem listMintChannels_headroom {ps : List (MintChannel × Nat)} (h : Returns (listMintChannels now) tx ps tx') :
    ∀ p ∈ ps, (snapshot p.1.counters cfg.rollingPeriodHours now).Headroom p.1.counters p.2 := by
  unfold listMintChannels at h
  obtain ⟨cs, t1, h1, h2⟩ := Returns.bind h
  obtain ⟨ht1, hfound⟩ := mintChannels_found h1
  rw [ht1] at h2
  obtain ⟨hours, t2, hh, h3⟩ := Returns.bind h2
  obtain ⟨rfl, -⟩ := rollingHours_of_settings hcfg hh
  obtain ⟨rfl, -⟩ := Returns.pure h3
  intro p hp
  obtain ⟨c, hc, rfl⟩ := List.mem_map.mp hp
  obtain ⟨id, hid⟩ := hfound c hc
  have hst := (hs.mint id c hid).2.1.counters
  exact headroom_remaining hst.periodCap hst.lifetimeCap _ _

theorem listBurnChannels_headroom {ps : List (BurnChannel × Nat)} (h : Returns (listBurnChannels now) tx ps tx') :
    ∀ p ∈ ps, (snapshot p.1.counters cfg.rollingPeriodHours now).Headroom p.1.counters p.2 := by
  unfold listBurnChannels at h
  obtain ⟨cs, t1, h1, h2⟩ := Returns.bind h
  obtain ⟨ht1, hfound⟩ := burnChannels_found h1
  rw [ht1] at h2
  obtain ⟨hours, t2, hh, h3⟩ := Returns.bind h2
  obtain ⟨rfl, -⟩ := rollingHours_of_settings hcfg hh
  obtain ⟨rfl, -⟩ := Returns.pure h3
  intro p hp
  obtain ⟨c, hc, rfl⟩ := List.mem_map.mp hp
  obtain ⟨id, hid⟩ := hfound c hc
  have hst := (hs.burn id c hid).2.1.counters
  exact headroom_remaining hst.periodCap hst.lifetimeCap _ _

end

namespace Engine

/-- A positive amount passes the cap check exactly when it is at most
`remaining`; so every channel query reports the largest admitted amount. -/
theorem remaining_is_largest_admitted :
    (∀ (c : Counters) (hours : Nat) (now : Int), c.periodCap < Amount.bound → c.lifetimeCap < Amount.bound →
      ∀ x, 0 < x → ((snapshot c hours now).checkCaps c x = .ok () ↔ x ≤ remaining c hours now)) ∧
    ∀ (e : Engine) (S : Store) (cfg : AppConfig) (now : Int), Reachable e S → appConfigIn S.get? = some cfg →
      (∀ id p, runView { store := S } (getMintChannel now id) = .ok p →
        (snapshot p.1.counters cfg.rollingPeriodHours now).Headroom p.1.counters p.2) ∧
      (∀ id p, runView { store := S } (getBurnChannel now id) = .ok p →
        (snapshot p.1.counters cfg.rollingPeriodHours now).Headroom p.1.counters p.2) ∧
      (∀ ps, runView { store := S } (listMintChannels now) = .ok ps →
        ∀ p ∈ ps, (snapshot p.1.counters cfg.rollingPeriodHours now).Headroom p.1.counters p.2) ∧
      ∀ ps, runView { store := S } (listBurnChannels now) = .ok ps →
        ∀ p ∈ ps, (snapshot p.1.counters cfg.rollingPeriodHours now).Headroom p.1.counters p.2 := by
  refine ⟨fun c hours now hp hl => headroom_remaining hp hl hours now, fun e S cfg now hS hcfg => ?_⟩
  -- the queries run on the read-only view, whose lookups are the store's
  have hs : Channel.Sound ({ db := { store := S }, readOnly := true } : Tx).lookup := by
    rw [Tx.lookup_view]
    exact Channel.Sound.of_reachable hS
  have hcfg' : appConfigIn ({ db := { store := S }, readOnly := true } : Tx).lookup = some cfg := by
    rwa [Tx.lookup_view]
  refine ⟨fun id p h => ?_, fun id p h => ?_, fun ps h => ?_, fun ps h => ?_⟩
  · obtain ⟨t, ht⟩ := Api.runView_ok h
    exact getMintChannel_headroom hs hcfg' ht
  · obtain ⟨t, ht⟩ := Api.runView_ok h
    exact getBurnChannel_headroom hs hcfg' ht
  · obtain ⟨t, ht⟩ := Api.runView_ok h
    exact listMintChannels_headroom hs hcfg' ht
  · obtain ⟨t, ht⟩ := Api.runView_ok h
    exact listBurnChannels_headroom hs hcfg' ht

/-- A window of cap 1000 that has issued 100 admits exactly the amounts up to
900; and after the sample trade, under its 12-hour settings, every channel
query reports the headroom its caps admit. -/
theorem headroom_after_trade :
    let c : Counters := { lifetimeCap := 1000000, periodIssued := 100, periodCap := 1000, periodAnchor := 1700000060 }
    let now : Int := 1700000240
    let cfg : AppConfig := ⟨12, Sample.address 2⟩
    c.periodCap < Amount.bound ∧ c.lifetimeCap < Amount.bound ∧ remaining c 12 now = 900 ∧
      (∀ x, 0 < x → ((snapshot c 12 now).checkCaps c x = .ok () ↔ x ≤ remaining c 12 now)) ∧
      Reachable Sample.engine Sample.traded ∧ appConfigIn Sample.traded.get? = some cfg ∧
      (∀ id p, runView { store := Sample.traded } (getMintChannel now id) = .ok p → (snapshot p.1.counters cfg.rollingPeriodHours now).Headroom p.1.counters p.2) ∧
      (∀ id p, runView { store := Sample.traded } (getBurnChannel now id) = .ok p → (snapshot p.1.counters cfg.rollingPeriodHours now).Headroom p.1.counters p.2) ∧
      (∀ ps, runView { store := Sample.traded } (listMintChannels now) = .ok ps → ∀ p ∈ ps, (snapshot p.1.counters cfg.rollingPeriodHours now).Headroom p.1.counters p.2) ∧
      ∀ ps, runView { store := Sample.traded } (listBurnChannels now) = .ok ps → ∀ p ∈ ps, (snapshot p.1.counters cfg.rollingPeriodHours now).Headroom p.1.counters p.2 := by
  intro c now cfg
  have hcfg : appConfigIn Sample.traded.get? = some cfg := by decide +kernel
  obtain ⟨hcaps, hquery⟩ := remaining_is_largest_admitted
  exact ⟨by decide, by decide, by decide, hcaps c 12 now (by decide) (by decide), Sample.traded_reachable, hcfg,
    hquery Sample.engine Sample.traded cfg now Sample.traded_reachable hcfg⟩

end Engine

end Issuance
