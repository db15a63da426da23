import Mathlib
import Issuance.Proofs.Api.Bootstrap
/-! # A manifest applied twice

After a successful application, later steps keep the entries in place
(`Kept`), and a second application finds every entry and leaves the
database as it was. Entries must fit their stored widths and accounts be
named (`blank_account_reopened`). -/
namespace Issuance

open Store Channel Engine

/-- A mint channel entry whose texts and numbers are within the widths they
are stored with. -/
structure MintChannelEntry.Typed (c : MintChannelEntry) : Prop where
  path : Text.Short c.path
  capacity : c.capacity < 2 ^ 16
  basket : ∀ l ∈ c.basket, Text.Short l.asset ∧ Text.Short l.priceFeed
  assets : ∀ a ∈ c.assets, Text.Short a
  feeds : ∀ f ∈ c.feeds, Text.Short f
  limits : c.limits.Typed

structure BurnChannelEntry.Typed (c : BurnChannelEntry) : Prop where
  path : Text.Short c.path
  outputAsset : Text.Short c.outputAsset
  outputFeed : Text.Short c.outputFeed
  limits : c.limits.Typed

/-- A manifest whose rolling period has 32 bits and whose channel entries
are typed. -/
structure Manifest.Typed (m : Manifest) : Prop where
  hours : m.rollingPeriodHours < 2 ^ 32
  mints : ∀ c ∈ m.mintChannels, c.Typed
  burns : ∀ c ∈ m.burnChannels, c.Typed

theorem MintChannelEntry.Typed.legs {c : MintChannelEntry} (hc : c.Typed) {legs : List Leg} (h : c.legs = .ok legs) :
    ∀ l ∈ legs, Text.Short l.asset ∧ Text.Short l.priceFeed := by
  unfold MintChannelEntry.legs at h
  split at h
  · unfold LegacyBasket.legs at h
    dsimp only at h
    split at h
    · cases h
      intro l hl
      obtain ⟨⟨⟨⟨a, d⟩, w⟩, f⟩, hm, rfl⟩ := List.mem_map.mp hl
      have ha : a ∈ c.assets := (List.of_mem_zip (List.of_mem_zip (List.of_mem_zip hm).1).1).1
      exact ⟨(hc.assets a ha).trim, (hc.feeds f (List.of_mem_zip hm).2).trim⟩
    · cases h
  · cases h
    exact hc.basket

theorem MintChannelEntry.Typed.settings {c : MintChannelEntry} (hc : c.Typed) {s : MintSettings}
    (h : c.settings = .ok s) (id : ChannelId) : (Op.setMintChannel id s).Typed := by
  unfold MintChannelEntry.settings at h
  cases hl : c.legs with
  | error f =>
    rw [hl] at h
    cases h
  | ok legs =>
    rw [hl] at h
    cases h
    exact ⟨hc.legs hl, hc.limits⟩

theorem BurnChannelEntry.Typed.settings {c : BurnChannelEntry} (hc : c.Typed) (id : ChannelId) :
    (Op.setBurnChannel id c.settings).Typed :=
  ⟨hc.outputAsset, hc.outputFeed, hc.limits⟩

end Issuance

namespace Issuance.Api

open Store Txn Bank Channel Engine

/-! ## Entry by entry -/

/-- Each entry satisfying `Q` is placed by its step: the run goes on with the
same engine over a store that kept the one before and has the entry in place. -/
def Places {α : Type} (run : List α → Tally → Chain Tally) (Q : α → Prop)
    (P : Engine → α → (Bytes → Option Bytes) → Prop) : Prop :=
  ∀ (x : α) (rest : List α) (t t' : Tally) (s : Session) (hs : List Happening) (st' : Session × List Happening)
    (S : Store), Q x → s.db = { store := S } → run (x :: rest) t (s, hs) = .ok t' st' →
    ∃ t₁ s₁ hs₁ S₁, run rest t₁ (s₁, hs₁) = .ok t' st' ∧ s₁.db = { store := S₁ } ∧ s₁.engine = s.engine ∧
      Kept S.get? S₁.get? ∧ P s.engine x S₁.get?

/-- A successful run that places each entry it passes leaves them all in
place, when an entry in place stays so in a store that keeps it. -/
theorem Places.all {α : Type} {run : List α → Tally → Chain Tally} {Q : α → Prop}
    {P : Engine → α → (Bytes → Option Bytes) → Prop} (hstep : Places run Q P)
    (hkept : ∀ e x L L', P e x L → Kept L L' → P e x L') (hnil : ∀ t, run [] t = pure t) {xs : List α}
    {t t' : Tally} {s s' : Session} {hs hs' : List Happening} {S : Store} (hQ : ∀ x ∈ xs, Q x)
    (hdb : s.db = { store := S }) (h : run xs t (s, hs) = .ok t' (s', hs')) :
    ∃ S', s'.db = { store := S' } ∧ s'.engine = s.engine ∧ Kept S.get? S'.get? ∧ ∀ x ∈ xs, P s.engine x S'.get? := by
  induction xs generalizing t s hs S with
  | nil =>
    rw [hnil] at h
    cases h
    exact ⟨S, hdb, rfl, .refl _, by simp⟩
  | cons x rest ih =>
    obtain ⟨t₁, s₁, hs₁, S₁, h₁, hdb₁, heng₁, hk₁, hx⟩ :=
      hstep x rest t t' s hs _ S (hQ x (List.mem_cons_self ..)) hdb h
    obtain ⟨S', hdb', heng', hk', hrest⟩ := ih (fun y hy => hQ y (List.mem_cons_of_mem _ hy)) hdb₁ h₁
    refine ⟨S', hdb', heng'.trans heng₁, hk₁.trans hk', fun y hy => ?_⟩
    rcases List.mem_cons.mp hy with rfl | hy
    · exact hkept _ _ _ _ hx hk'
    · exact heng₁ ▸ hrest y hy

section
variable {operator custody : Address}

theorem applyAssets_cons {a : AssetEntry} {rest : List AssetEntry} {t t' : Tally} {s : Session} {hs : List Happening}
    {st' : Session × List Happening} {S : Store} (hdb : s.db = { store := S })
    (h : applyAssets operator custody (a :: rest) t (s, hs) = .ok t' st') :
    ∃ x, ownerOf a.authority custody = .ok x ∧ s.engine.authorize operator = .ok () ∧
      ((∃ r₁ tx₁ S₁ hs₁, Returns (Engine.createAsset a.id a.decimals x) { db := { store := S } } r₁ tx₁ ∧
          tx₁.lookup = S₁.get? ∧
          applyAssets operator custody rest (t.made ("asset/" ++ a.id)) ({ s with db := { store := S₁ } }, hs₁) =
            .ok t' st') ∨
        ∃ f, Engine.createAsset a.id a.decimals x { db := { store := S } } = .error f ∧ f.cause = some .assetExists ∧
          ∃ hs₁, applyAssets operator custody rest (t.found ("asset/" ++ a.id)) (s, hs₁) = .ok t' st') := by
  rw [applyAssets] at h
  -- the authority names an address, or the run stops
  obtain ⟨x, hown⟩ : ∃ x, ownerOf a.authority custody = .ok x := by
    cases hown : ownerOf a.authority custody with
    | ok x => exact ⟨x, rfl⟩
    | error e =>
      simp only [hown] at h
      obtain ⟨_, _, hf, -⟩ := Chain.bind_ok h
      exact absurd hf Chain.fail_ne_ok
  simp only [hown] at h
  obtain ⟨_, _, hx, h₁⟩ := Chain.bind_ok h
  cases hx
  obtain ⟨r, ⟨s₂, hs₂⟩, hr, h₂⟩ := Chain.bind_ok h₁
  rcases Chain.attempt_ok hr with ⟨y, hy, rfl⟩ | ⟨f, hf, rfl⟩
  · -- created
    obtain ⟨hauth, hc⟩ := Chain.admin_ok hy
    obtain ⟨es, tx₁, S₁, hm, hS₁, rfl⟩ := commit_op_ok (.createAsset a.id a.decimals x) s.engine s.context hc hdb
    exact ⟨x, hown, hauth, .inl ⟨_, tx₁, S₁, hs₂, hm, hS₁, h₂⟩⟩
  · -- refused: the run goes on only past an asset that exists
    obtain ⟨hcase, hs₂s⟩ := Chain.admin_error hf
    change s₂ = s at hs₂s
    subst hs₂s
    by_cases hc : f.cause = some .assetExists
    · rcases hcase with hauth | ⟨hauth, hrun⟩
      · exact absurd (authorize_error_cause hauth) (by simp [hc])
      · have hm := commit_op_error (.createAsset a.id a.decimals x) s₂.engine s₂.context hrun hdb
        simp only [hc, if_true] at h₂
        exact ⟨x, hown, hauth, .inr ⟨f, hm, hc, _, h₂⟩⟩
    · simp only [hc, if_false] at h₂
      exact absurd h₂ Chain.fail_ne_ok

/-- Each asset entry of a successful application is created or refused as
existing, and is in place after its step. -/
theorem applyAssets_places :
    Places (applyAssets operator custody) (fun _ => True) (fun e a L => a.InPlace e operator custody L) := by
  intro a rest t t' s hs st' S _ hdb h
  obtain ⟨x, hown, hauth, ⟨_, tx₁, S₁, hs₁, hm, hS₁, h'⟩ | ⟨f, hm, hc, hs₁, h'⟩⟩ := applyAssets_cons hdb h
  · -- created
    obtain ⟨hk, hdec, hid, hstored⟩ := createAsset_kept hm
    rw [hS₁, Tx.lookup_start] at hk
    rw [hS₁] at hstored
    exact ⟨_, _, hs₁, S₁, h', rfl, rfl, hk, hauth, ⟨x, hown⟩, hdec, hid, hstored⟩
  · -- refused as existing
    obtain ⟨hdec, -, hid, hstored⟩ := (createAsset_exists_iff Tx.raw_start rfl).mp ⟨f, hm, hc⟩
    rw [Tx.lookup_start] at hstored
    exact ⟨_, s, hs₁, S, h', hdb, rfl, .refl _, hauth, ⟨x, hown⟩, hdec, hid, hstored⟩

/-- A feed entry's step created the feed and submitted any opening answer, each
in its own commit, or was refused as the feed exists. -/
theorem applyFeeds_cons {f : FeedEntry} {rest : List FeedEntry} {t t' : Tally} {s : Session} {hs : List Happening}
    {st' : Session × List Happening} {S : Store} (hdb : s.db = { store := S })
    (h : applyFeeds operator (f :: rest) t (s, hs) = .ok t' st') :
    s.engine.authorize operator = .ok () ∧
      ((∃ r₁ tx₁ S₁, Returns (Engine.createFeed f.id f.description f.decimals) { db := { store := S } } r₁ tx₁ ∧
          tx₁.lookup = S₁.get? ∧
          ((f.answer = none ∧ ∃ hs₁,
              applyFeeds operator rest (t.made ("feed/" ++ f.id)) ({ s with db := { store := S₁ } }, hs₁) = .ok t' st') ∨
            ∃ a r₂ tx₂ S₂ hs₂, f.answer = some a ∧
              Returns (Engine.submitRound s.now f.id a) { db := { store := S₁ } } r₂ tx₂ ∧ tx₂.lookup = S₂.get? ∧
              applyFeeds operator rest (t.made ("feed/" ++ f.id)) ({ s with db := { store := S₂ } }, hs₂) = .ok t' st')) ∨
        ∃ e, Engine.createFeed f.id f.description f.decimals { db := { store := S } } = .error e ∧
          e.cause = some .feedExists ∧ ∃ hs₁, applyFeeds operator rest (t.found ("feed/" ++ f.id)) (s, hs₁) = .ok t' st') := by
  rw [applyFeeds] at h
  obtain ⟨r, ⟨s₁, hs₁⟩, hr, h₁⟩ := Chain.bind_ok h
  rcases Chain.attempt_ok hr with ⟨y, hy, rfl⟩ | ⟨e, he, rfl⟩
  · -- created
    obtain ⟨hauth, hc⟩ := Chain.admin_ok hy
    obtain ⟨es, tx₁, S₁, hm, hS₁, rfl⟩ :=
      commit_op_ok (.createFeed f.id f.description f.decimals) s.engine s.context hc hdb
    refine ⟨hauth, .inl ⟨_, tx₁, S₁, hm, hS₁, ?_⟩⟩
    cases ha : f.answer with
    | none =>
      simp only [ha] at h₁
      exact .inl ⟨rfl, _, h₁⟩
    | some answer =>
      -- the first round is submitted in a change of its own
      simp only [ha] at h₁
      obtain ⟨now, st₂, hnow, h₂⟩ := Chain.bind_ok h₁
      obtain ⟨rfl, rfl⟩ := Chain.now_ok hnow
      obtain ⟨u, ⟨s₃, hs₃⟩, hu, h₃⟩ := Chain.bind_ok h₂
      obtain ⟨-, hc'⟩ := Chain.admin_ok (Chain.within_ok hu)
      obtain ⟨es', tx₂, S₂, hm', hS₂, rfl⟩ := commit_op_ok (.submitRound f.id answer) s.engine s.context hc' rfl
      exact .inr ⟨answer, _, tx₂, S₂, hs₃, rfl, hm', hS₂, h₃⟩
  · -- refused: the run goes on only past a feed that exists
    obtain ⟨hcase, hs₁s⟩ := Chain.admin_error he
    change s₁ = s at hs₁s
    subst hs₁s
    by_cases hc : e.cause = some .feedExists
    · rcases hcase with hauth | ⟨hauth, hrun⟩
      · exact absurd (authorize_error_cause hauth) (by simp [hc])
      · have hm := commit_op_error (.createFeed f.id f.description f.decimals) s₁.engine s₁.context hrun hdb
        simp only [hc, if_true] at h₁
        exact ⟨hauth, .inr ⟨e, hm, hc, _, h₁⟩⟩
    · simp only [hc, if_false] at h₁
      exact absurd h₁ Chain.fail_ne_ok

/-- Each feed entry of a successful application is created, with its first
round if it declares one, or refused as existing, and is in place after its
step. -/
theorem applyFeeds_places : Places (applyFeeds operator) (fun _ => True) (fun e f L => f.InPlace e operator L) := by
  intro f rest t t' s hs st' S _ hdb h
  obtain ⟨hauth, ⟨_, tx₁, S₁, hm, hS₁, hnext⟩ | ⟨e, hm, hc, hs₁, h'⟩⟩ := applyFeeds_cons hdb h
  · -- created
    obtain ⟨hk, hid, hdec, hstored⟩ := createFeed_kept Tx.raw_start rfl hm
    rw [hS₁, Tx.lookup_start] at hk
    rw [hS₁] at hstored
    rcases hnext with ⟨-, hs₁, h'⟩ | ⟨a, _, tx₂, S₂, hs₂, -, hm', hS₂, h'⟩
    · exact ⟨_, _, hs₁, S₁, h', rfl, rfl, hk, hauth, hid, hdec, hstored⟩
    · -- the first round was submitted in a change of its own
      have hk' := submitRound_kept hm'
      rw [hS₂, Tx.lookup_start] at hk'
      exact ⟨_, _, hs₂, S₂, h', rfl, rfl, hk.trans hk', hauth, hid, hdec, hk'.present _ hstored⟩
  · -- refused as existing
    obtain ⟨hid, hdec, hstored⟩ := (createFeed_exists_iff Tx.raw_start rfl).mp ⟨e, hm, hc⟩
    rw [Tx.lookup_start] at hstored
    exact ⟨_, s, hs₁, S, h', hdb, rfl, .refl _, hauth, hid, hdec, hstored⟩

theorem applyAccounts_cons {a : AccountEntry} {rest : List AccountEntry} {t t' : Tally} {s : Session}
    {hs : List Happening} {st' : Session × List Happening} {S : Store} (hdb : s.db = { store := S })
    (h : applyAccounts custody (a :: rest) t (s, hs) = .ok t' st') :
    ∃ x, ownerOf a.owner custody = .ok x ∧ x.isZero = false ∧
      ((∃ r₁ tx₁ S₁ hs₁, Returns (Engine.openAccount s.context x a.id a.asset) { db := { store := S } } r₁ tx₁ ∧
          tx₁.lookup = S₁.get? ∧
          applyAccounts custody rest (t.made ("account/" ++ a.id)) ({ s.advanceSerial with db := { store := S₁ } }, hs₁) =
            .ok t' st') ∨
        ∃ f, Engine.openAccount s.context x a.id a.asset { db := { store := S } } = .error f ∧
          f.cause = some .accountExists ∧
          ∃ hs₁, applyAccounts custody rest (t.found ("account/" ++ a.id)) (s.advanceSerial, hs₁) = .ok t' st') := by
  rw [applyAccounts] at h
  -- the owner names an address, or the run stops
  obtain ⟨x, hown⟩ : ∃ x, ownerOf a.owner custody = .ok x := by
    cases hown : ownerOf a.owner custody with
    | ok x => exact ⟨x, rfl⟩
    | error e =>
      simp only [hown] at h
      obtain ⟨_, _, hf, -⟩ := Chain.bind_ok h
      exact absurd hf Chain.fail_ne_ok
  simp only [hown] at h
  obtain ⟨_, _, hx, h₁⟩ := Chain.bind_ok h
  cases hx
  obtain ⟨r, ⟨s₂, hs₂⟩, hr, h₂⟩ := Chain.bind_ok h₁
  rcases Chain.attempt_ok hr with ⟨y, hy, rfl⟩ | ⟨f, hf, rfl⟩
  · -- opened
    cases hz : x.isZero
    · simp only [hz, Bool.false_eq_true, if_false, bind, EStateM.bind, Chain.context] at hy
      obtain ⟨es, tx₁, S₁, hm, hS₁, rfl⟩ := commit_op_ok (.openAccount x a.id a.asset) s.engine s.context hy hdb
      exact ⟨x, hown, hz, .inl ⟨_, tx₁, S₁, hs₂, hm, hS₁, h₂⟩⟩
    · simp only [hz, if_true, bind, EStateM.bind, Chain.fail] at hy
      cases hy
  · -- refused: the run goes on only past an account that exists
    by_cases hc : f.cause = some .accountExists
    · cases hz : x.isZero
      · simp only [hz, Bool.false_eq_true, if_false, bind, EStateM.bind, Chain.context] at hf
        obtain ⟨hrun, hs₂s⟩ := Chain.commit_error hf
        change s₂ = s.advanceSerial at hs₂s
        subst hs₂s
        have hm := commit_op_error (.openAccount x a.id a.asset) s.engine s.context hrun hdb
        simp only [hc, if_true] at h₂
        exact ⟨x, hown, hz, .inr ⟨f, hm, hc, _, h₂⟩⟩
      · -- an owner that is no address is refused before any change
        simp only [hz, if_true, bind, EStateM.bind, Chain.fail] at hf
        cases hf
        cases hc
    · simp only [hc, if_false] at h₂
      exact absurd h₂ Chain.fail_ne_ok

theorem applyAccounts_places :
    Places (applyAccounts custody) (fun a => Text.trim a.id ≠ "") (fun _ a L => a.InPlace custody L) := by
  intro a rest t t' s hs st' S hid hdb h
  -- a named account is stored under its own id, not the fresh one
  have hkey : (if Text.trim a.id = "" then s.context.fresh else Text.trim a.id) = Text.trim a.id := if_neg hid
  obtain ⟨x, hown, hz, ⟨_, tx₁, S₁, hs₁, hm, hS₁, h'⟩ | ⟨f, hm, hc, hs₁, h'⟩⟩ := applyAccounts_cons hdb h
  · -- opened
    obtain ⟨hk, hasset, hstored⟩ := openAccount_kept hm
    rw [hS₁, Tx.lookup_start] at hk
    rw [hS₁, hkey] at hstored
    rw [Tx.lookup_start] at hasset
    exact ⟨_, _, hs₁, S₁, h', rfl, rfl, hk, ⟨x, hown, hz⟩, hid, hk.asset_isSome hasset, hstored⟩
  · -- refused as existing
    obtain ⟨hasset, hstored⟩ := (openAccount_exists_iff Tx.raw_start rfl).mp ⟨f, hm, hc⟩
    rw [Tx.lookup_start] at hasset hstored
    rw [hkey] at hstored
    exact ⟨_, _, hs₁, S, h', hdb, rfl, .refl _, ⟨x, hown, hz⟩, hid, hasset, hstored⟩

/-- A mint channel entry's step found the channel, or created and then
configured it, each in its own commit. -/
theorem applyMintChannels_cons {c : MintChannelEntry} {rest : List MintChannelEntry} {t t' : Tally} {s : Session}
    {hs : List Happening} {st' : Session × List Happening} {S : Store} (hdb : s.db = { store := S })
    (h : applyMintChannels operator (c :: rest) t (s, hs) = .ok t' st') :
    ((mintChannelIn S.get? (ChannelId.derive .mint (Text.trim c.path))).isSome ∧
        applyMintChannels operator rest (t.found ("mint/" ++ Text.trim c.path)) (s, hs) = .ok t' st') ∨
      ∃ settings r₁ r₂ tx₁ tx₂ S₁ S₂ hs₂, c.settings = .ok settings ∧
        Returns (Engine.createMintChannel (Text.trim c.path) c.capacity) { db := { store := S } } r₁ tx₁ ∧
        tx₁.lookup = S₁.get? ∧
        Returns (Engine.setMintChannel s.now (ChannelId.derive .mint (Text.trim c.path)) settings)
          { db := { store := S₁ } } r₂ tx₂ ∧ tx₂.lookup = S₂.get? ∧
        applyMintChannels operator rest (t.made ("mint/" ++ Text.trim c.path))
          ({ s with db := { store := S₂ } }, hs₂) = .ok t' st' := by
  rw [applyMintChannels] at h
  obtain ⟨now, st₁, hnow, h₁⟩ := Chain.bind_ok h
  obtain ⟨rfl, rfl⟩ := Chain.now_ok hnow
  obtain ⟨r, ⟨s₂, hs₂⟩, hr, h₂⟩ := Chain.bind_ok h₁
  rcases Chain.attempt_ok hr with ⟨y, hy, rfl⟩ | ⟨f, hf, rfl⟩
  · -- found
    obtain ⟨hq, hst⟩ := Chain.query_ok hy
    cases hst
    rw [show (s, hs).1.db = { store := S } from hdb] at hq
    obtain ⟨tx', hm⟩ := runView_ok hq
    have hfound := getMintChannel_found hm
    rw [Tx.lookup_view] at hfound
    exact .inl ⟨hfound, h₂⟩
  · -- not found: created, then configured, each in a change of its own
    obtain ⟨-, hst⟩ := Chain.query_error hf
    cases hst
    by_cases hcode : (f.code != .unavailable) = true
    · simp only [hcode, if_true] at h₂
      exact absurd h₂ Chain.fail_ne_ok
    simp only [hcode, Bool.false_eq_true, if_false] at h₂
    obtain ⟨settings, hsettings⟩ : ∃ settings, c.settings = .ok settings := by
      cases hsettings : c.settings with
      | ok settings => exact ⟨settings, rfl⟩
      | error e =>
        simp only [hsettings] at h₂
        obtain ⟨_, _, hf', -⟩ := Chain.bind_ok h₂
        exact absurd hf' Chain.fail_ne_ok
    simp only [hsettings] at h₂
    obtain ⟨_, _, hp, h₃⟩ := Chain.bind_ok h₂
    cases hp
    obtain ⟨u, ⟨s₄, hs₄⟩, hu, h₄⟩ := Chain.bind_ok h₃
    obtain ⟨-, hcr⟩ := Chain.admin_ok (Chain.within_ok hu)
    obtain ⟨es, tx₁, S₁, hm, hS₁, rfl⟩ :=
      commit_op_ok (.createMintChannel (Text.trim c.path) c.capacity) s.engine s.context hcr hdb
    obtain ⟨now', st₅, hnow', h₅⟩ := Chain.bind_ok h₄
    obtain ⟨rfl, rfl⟩ := Chain.now_ok hnow'
    obtain ⟨u', ⟨s₆, hs₆⟩, hu', h₆⟩ := Chain.bind_ok h₅
    obtain ⟨-, hcs⟩ := Chain.admin_ok (Chain.within_ok hu')
    obtain ⟨es', tx₂, S₂, hm', hS₂, rfl⟩ :=
      commit_op_ok (.setMintChannel (ChannelId.derive .mint (Text.trim c.path)) settings) s.engine s.context hcs rfl
    exact .inr ⟨settings, _, _, tx₁, tx₂, S₁, S₂, hs₆, hsettings, hm, hS₁, hm', hS₂, h₆⟩

/-- Each typed mint channel entry of a successful application is found, or
created and configured, and is in place after its step. -/
theorem applyMintChannels_places :
    Places (applyMintChannels operator) MintChannelEntry.Typed (fun _ c L => c.InPlace L) := by
  intro c rest t t' s hs st' S hc hdb h
  rcases applyMintChannels_cons hdb h with ⟨hfound, h'⟩ | ⟨settings, _, _, tx₁, tx₂, S₁, S₂, hs₂, hsettings, hm, hS₁,
    hm', hS₂, h'⟩
  · exact ⟨_, _, _, S, h', hdb, rfl, .refl _, hfound⟩
  · obtain ⟨hk, hsound⟩ := createMintChannel_kept hc.path.trim hc.capacity hm
    rw [hS₁, Tx.lookup_start] at hk
    rw [hS₁, Text.trim_trim] at hsound
    obtain ⟨hk', hsome⟩ := setMintChannel_kept (by rwa [Tx.lookup_start]) (hc.settings hsettings _) hm'
    rw [hS₂, Tx.lookup_start] at hk'
    rw [hS₂] at hsome
    exact ⟨_, _, hs₂, S₂, h', rfl, rfl, hk.trans hk', hsome⟩

theorem applyBurnChannels_cons {c : BurnChannelEntry} {rest : List BurnChannelEntry} {t t' : Tally} {s : Session}
    {hs : List Happening} {st' : Session × List Happening} {S : Store} (hdb : s.db = { store := S })
    (h : applyBurnChannels operator (c :: rest) t (s, hs) = .ok t' st') :
    ((burnChannelIn S.get? (ChannelId.derive .burn (Text.trim c.path))).isSome ∧
        applyBurnChannels operator rest (t.found ("burn/" ++ Text.trim c.path)) (s, hs) = .ok t' st') ∨
      ∃ r₁ r₂ tx₁ tx₂ S₁ S₂ hs₂,
        Returns (Engine.createBurnChannel (Text.trim c.path)) { db := { store := S } } r₁ tx₁ ∧ tx₁.lookup = S₁.get? ∧
        Returns (Engine.setBurnChannel s.now (ChannelId.derive .burn (Text.trim c.path)) c.settings)
          { db := { store := S₁ } } r₂ tx₂ ∧ tx₂.lookup = S₂.get? ∧
        applyBurnChannels operator rest (t.made ("burn/" ++ Text.trim c.path))
          ({ s with db := { store := S₂ } }, hs₂) = .ok t' st' := by
  rw [applyBurnChannels] at h
  obtain ⟨now, st₁, hnow, h₁⟩ := Chain.bind_ok h
  obtain ⟨rfl, rfl⟩ := Chain.now_ok hnow
  obtain ⟨r, ⟨s₂, hs₂⟩, hr, h₂⟩ := Chain.bind_ok h₁
  rcases Chain.attempt_ok hr with ⟨y, hy, rfl⟩ | ⟨f, hf, rfl⟩
  · -- found
    obtain ⟨hq, hst⟩ := Chain.query_ok hy
    cases hst
    rw [show (s, hs).1.db = { store := S } from hdb] at hq
    obtain ⟨tx', hm⟩ := runView_ok hq
    have hfound := getBurnChannel_found hm
    rw [Tx.lookup_view] at hfound
    exact .inl ⟨hfound, h₂⟩
  · -- not found: created, then configured, each in a change of its own
    obtain ⟨-, hst⟩ := Chain.query_error hf
    cases hst
    by_cases hcode : (f.code != .unavailable) = true
    · simp only [hcode, if_true] at h₂
      exact absurd h₂ Chain.fail_ne_ok
    simp only [hcode, Bool.false_eq_true, if_false] at h₂
    obtain ⟨u, ⟨s₄, hs₄⟩, hu, h₄⟩ := Chain.bind_ok h₂
    obtain ⟨-, hcr⟩ := Chain.admin_ok (Chain.within_ok hu)
    obtain ⟨es, tx₁, S₁, hm, hS₁, rfl⟩ := commit_op_ok (.createBurnChannel (Text.trim c.path)) s.engine s.context hcr hdb
    obtain ⟨now', st₅, hnow', h₅⟩ := Chain.bind_ok h₄
    obtain ⟨rfl, rfl⟩ := Chain.now_ok hnow'
    obtain ⟨u', ⟨s₆, hs₆⟩, hu', h₆⟩ := Chain.bind_ok h₅
    obtain ⟨-, hcs⟩ := Chain.admin_ok (Chain.within_ok hu')
    obtain ⟨es', tx₂, S₂, hm', hS₂, rfl⟩ :=
      commit_op_ok (.setBurnChannel (ChannelId.derive .burn (Text.trim c.path)) c.settings) s.engine s.context hcs rfl
    exact .inr ⟨_, _, tx₁, tx₂, S₁, S₂, hs₆, hm, hS₁, hm', hS₂, h₆⟩

theorem applyBurnChannels_places :
    Places (applyBurnChannels operator) BurnChannelEntry.Typed (fun _ c L => c.InPlace L) := by
  intro c rest t t' s hs st' S hc hdb h
  rcases applyBurnChannels_cons hdb h with ⟨hfound, h'⟩ | ⟨_, _, tx₁, tx₂, S₁, S₂, hs₂, hm, hS₁, hm', hS₂, h'⟩
  · exact ⟨_, _, _, S, h', hdb, rfl, .refl _, hfound⟩
  · obtain ⟨hk, hsound⟩ := createBurnChannel_kept hc.path.trim hm
    rw [hS₁, Tx.lookup_start] at hk
    rw [hS₁, Text.trim_trim] at hsound
    obtain ⟨hk', hsome⟩ := setBurnChannel_kept (by rwa [Tx.lookup_start]) (hc.settings _) hm'
    rw [hS₂, Tx.lookup_start] at hk'
    rw [hS₂] at hsome
    exact ⟨_, _, hs₂, S₂, h', rfl, rfl, hk.trans hk', hsome⟩

end

/-! ## The whole application -/

theorem Chain.note_pure_ok {α : Type} {level : Logging.Level} {message : String} {fields : List (String × Json)}
    {a b : α} {s s' : Session} {hs hs' : List Happening}
    (h : (Chain.note level message fields >>= fun _ => pure a) (s, hs) = .ok b (s', hs')) : b = a ∧ s' = s := by
  simp only [bind, EStateM.bind, Chain.note, pure, EStateM.pure] at h
  cases h
  exact ⟨rfl, rfl⟩

section
variable {S : Store} {s s' : Session} {hs hs' : List Happening} {m : Manifest} {operator custody : Address}

theorem applyEntries_places {β : Type} (hm : m.Typed) (hids : ∀ a ∈ m.accounts, Text.trim a.id ≠ "")
    {cfg : AppConfig} {k : Tally → Chain β} {t₀ : Tally} {b : β} (hdb : s.db = { store := S })
    (hcfg : appConfigIn S.get? = some cfg) (hsigner : cfg.custodialSigner = custody)
    (hhours : m.rollingPeriodHours = 0 ∨ cfg.rollingPeriodHours = m.rollingPeriodHours)
    (h : (applyAssets operator custody m.assets t₀ >>= fun t => applyFeeds operator m.feeds t >>= fun t =>
        applyAccounts custody m.accounts t >>= fun t => applyMintChannels operator m.mintChannels t >>= fun t =>
        applyBurnChannels operator m.burnChannels t >>= k) (s, hs) = .ok b (s', hs')) :
    ∃ t₁ s₁ hs₁ S₁, k t₁ (s₁, hs₁) = .ok b (s', hs') ∧ s₁.db = { store := S₁ } ∧ s₁.engine = s.engine ∧
      m.InPlace s.engine operator custody S₁.get? := by
  obtain ⟨t₁, ⟨s₁, hs₁⟩, h₁, k₁⟩ := Chain.bind_ok h
  obtain ⟨S₁, hdb₁, heng₁, hk₁, hassets⟩ :=
    applyAssets_places.all (fun _ _ _ _ h hk => h.kept hk) (fun _ => rfl) (fun _ _ => trivial) hdb h₁
  obtain ⟨t₂, ⟨s₂, hs₂⟩, h₂, k₂⟩ := Chain.bind_ok k₁
  obtain ⟨S₂, hdb₂, heng₂, hk₂, hfeeds⟩ :=
    applyFeeds_places.all (fun _ _ _ _ h hk => h.kept hk) (fun _ => rfl) (fun _ _ => trivial) hdb₁ h₂
  obtain ⟨t₃, ⟨s₃, hs₃⟩, h₃, k₃⟩ := Chain.bind_ok k₂
  obtain ⟨S₃, hdb₃, heng₃, hk₃, haccounts⟩ :=
    applyAccounts_places.all (fun _ _ _ _ h hk => h.kept hk) (fun _ => rfl) hids hdb₂ h₃
  obtain ⟨t₄, ⟨s₄, hs₄⟩, h₄, k₄⟩ := Chain.bind_ok k₃
  obtain ⟨S₄, hdb₄, heng₄, hk₄, hmints⟩ :=
    applyMintChannels_places.all (fun _ _ _ _ h hk => h.kept hk) (fun _ => rfl) hm.mints hdb₃ h₄
  obtain ⟨t₅, ⟨s₅, hs₅⟩, h₅, k₅⟩ := Chain.bind_ok k₄
  obtain ⟨S₅, hdb₅, heng₅, hk₅, hburns⟩ :=
    applyBurnChannels_places.all (fun _ _ _ _ h hk => h.kept hk) (fun _ => rfl) hm.burns hdb₄ h₅
  refine ⟨t₅, s₅, hs₅, S₅, k₅, hdb₅, by rw [heng₅, heng₄, heng₃, heng₂, heng₁], ?_⟩
  -- each phase keeps what the phases before it left in place
  have hk₄₅ := hk₄.trans hk₅
  have hk₃₅ := hk₃.trans hk₄₅
  have hk₂₅ := hk₂.trans hk₃₅
  rw [heng₁] at hfeeds
  exact
    { config := ⟨cfg, by rw [(hk₁.trans hk₂₅).config, hcfg], hsigner, hhours⟩
      assets := fun a ha => (hassets a ha).kept hk₂₅
      feeds := fun f hf => (hfeeds f hf).kept hk₃₅
      accounts := fun a ha => (haccounts a ha).kept hk₄₅
      mints := fun c hc => (hmints c hc).kept hk₅
      burns := hburns }

theorem applyManifest_places (hm : m.Typed) (hids : ∀ a ∈ m.accounts, Text.trim a.id ≠ "") {t : Tally}
    (hdb : s.db = { store := S }) (h : applyManifest operator m (s, hs) = .ok t (s', hs')) :
    ∃ S' custody, s'.db = { store := S' } ∧ s'.engine = s.engine ∧ m.InPlace s.engine operator custody S'.get? := by
  unfold applyManifest at h
  obtain ⟨cfg, st₁, hq, h₁⟩ := Chain.bind_ok h
  obtain ⟨hv, rfl⟩ := Chain.query_ok (Chain.within_ok hq)
  rw [show (s, hs).1.db = { store := S } from hdb] at hv
  obtain ⟨tx, hv⟩ := runView_ok hv
  obtain ⟨-, hcfg⟩ := requireAppConfig_returns hv
  simp only [Tx.lookup_view] at hcfg
  dsimp only at h₁
  split at h₁
  · -- a rolling period is declared and differs from the one found: it is set
    obtain ⟨u, ⟨s₁, hs₁⟩, hu, h₂⟩ := Chain.bind_ok h₁
    obtain ⟨-, hc⟩ := Chain.admin_ok (Chain.within_ok hu)
    obtain ⟨es, tx', S₁, hm', hS₁, rfl⟩ := commit_op_ok (.setAppConfig m.rollingPeriodHours) s.engine s.context hc hdb
    obtain ⟨c, hc', rfl⟩ := setAppConfig_rewrites hm'
    simp only [Tx.lookup_start] at hc'
    rw [hcfg] at hc'
    cases hc'
    obtain ⟨_, _, hp, h₃⟩ := Chain.bind_ok h₂
    cases hp
    have hcfg₁ : appConfigIn S₁.get? = some { cfg with rollingPeriodHours := m.rollingPeriodHours } := by
      rw [← hS₁, appConfigIn, recordAt_restaged_encode (fits_appConfigValue hm.hours), appConfigOf_appConfigValue]
    obtain ⟨t₁, s₂, hs₂, S₂, hk, hdb₂, heng₂, hin⟩ := applyEntries_places hm hids rfl hcfg₁ rfl (.inr rfl) h₃
    obtain ⟨-, rfl⟩ := Chain.note_pure_ok hk
    exact ⟨S₂, _, hdb₂, heng₂, hin⟩
  · -- none is declared, or the one found is the one declared
    rename_i hkeep
    obtain ⟨_, _, hp, h₂⟩ := Chain.bind_ok h₁
    cases hp
    have hhours : m.rollingPeriodHours = 0 ∨ cfg.rollingPeriodHours = m.rollingPeriodHours := by
      simp only [Bool.and_eq_true, decide_eq_true_eq, not_and, not_not] at hkeep
      by_cases h0 : m.rollingPeriodHours = 0
      · exact .inl h0
      · exact .inr (hkeep h0).symm
    obtain ⟨t₁, s₂, hs₂, S₂, hk, hdb₂, heng₂, hin⟩ := applyEntries_places hm hids hdb hcfg rfl hhours h₂
    obtain ⟨-, rfl⟩ := Chain.note_pure_ok hk
    exact ⟨S₂, _, hdb₂, heng₂, hin⟩

/-- Applying such a manifest again finds every entry, creates nothing and
leaves the database as it was. -/
theorem manifest_reapplied_finds_everything (hm : m.Typed) (hids : ∀ a ∈ m.accounts, Text.trim a.id ≠ "")
    {t : Tally} (hdb : s.db = { store := S }) (h : applyManifest operator m (s, hs) = .ok t (s', hs'))
    (hs₁ : List Happening) :
    ∃ s₂ hs₂, applyManifest operator m (s', hs₁) = .ok ⟨[], m.declared⟩ (s₂, hs₂) ∧ s₂.db = s'.db := by
  obtain ⟨S', custody, hdb', heng, hin⟩ := applyManifest_places hm hids hdb h
  rw [← heng] at hin
  obtain ⟨s₂, hs₂, h₂, hdb₂, -⟩ := applyManifest_finds hdb' hin hs₁
  exact ⟨s₂, hs₂, h₂, hdb₂⟩

end

theorem Chain.ok_of_check {α : Type} {m : Chain α} {st : Session × List Happening}
    {P : α → Session → List Happening → Prop}
    (hok : (match m st with | .ok _ _ => true | .error _ _ => false) = true)
    (hP : ∀ a s' hs', m st = .ok a (s', hs') → P a s' hs') : ∃ a s' hs', m st = .ok a (s', hs') ∧ P a s' hs' := by
  cases h : m st with
  | ok a st' => exact ⟨a, st'.1, st'.2, rfl, hP _ _ _ h⟩
  | error f st' =>
    rw [h] at hok
    cases hok

/-- On a database that holds the settings, a manifest of an asset and an
account of the custodial signer is found entirely by its second
application. -/
theorem manifest_reapplied_finds_everything_with_settings :
    ∃ t s₁ hs₁,
      applyManifest ⟨List.replicate 19 0 ++ [1], rfl⟩
        { assets := [{ id := "AAA", decimals := 6, authority := "custody" }],
          accounts := [{ id := "vault", owner := "custody", asset := "AAA" }] }
        ({ engine := ⟨⟨[⟨List.replicate 19 0 ++ [1], rfl⟩]⟩, "USDX", 6, 0⟩, now := 0,
           db := { store := ⟨[(appConfigKey, Rlp.encode (appConfigValue ⟨24, ⟨List.replicate 19 0 ++ [1], rfl⟩⟩))]⟩ } },
          []) = .ok t (s₁, hs₁) ∧
      ∃ s₂ hs₂,
        applyManifest ⟨List.replicate 19 0 ++ [1], rfl⟩
          { assets := [{ id := "AAA", decimals := 6, authority := "custody" }],
            accounts := [{ id := "vault", owner := "custody", asset := "AAA" }] }
          (s₁, []) = .ok ⟨[], ["asset/AAA", "account/vault"]⟩ (s₂, hs₂) ∧ s₂.db = s₁.db :=
  Chain.ok_of_check (by decide +kernel) fun _ _ _ h =>
    manifest_reapplied_finds_everything ⟨by decide, by simp, by simp⟩ (by decide) rfl h []

/-- An account declared without an id is opened again by a second
application. -/
theorem blank_account_reopened :
    ∃ s₀ hs₀ t₁ s₁ hs₁ t₂ s₂ hs₂,
      (ensureAppConfig ⟨List.replicate 19 0 ++ [1], rfl⟩ ⟨List.replicate 19 0 ++ [2], rfl⟩ *> ensureStableAsset ⟨List.replicate 19 0 ++ [1], rfl⟩)
          ({ engine := ⟨⟨[⟨List.replicate 19 0 ++ [1], rfl⟩]⟩, "USDX", 6, 0⟩, db := {}, now := 0 }, []) = .ok () (s₀, hs₀) ∧
        applyManifest ⟨List.replicate 19 0 ++ [1], rfl⟩ { accounts := [{ owner := "custody", asset := "USDX" }] } (s₀, []) = .ok t₁ (s₁, hs₁) ∧
        applyManifest ⟨List.replicate 19 0 ++ [1], rfl⟩ { accounts := [{ owner := "custody", asset := "USDX" }] } (s₁, []) = .ok t₂ (s₂, hs₂) ∧
        t₂.created = ["account/"] := by
  have hrun : (match (ensureAppConfig ⟨List.replicate 19 0 ++ [1], rfl⟩ ⟨List.replicate 19 0 ++ [2], rfl⟩ *> ensureStableAsset ⟨List.replicate 19 0 ++ [1], rfl⟩) ({ engine := ⟨⟨[⟨List.replicate 19 0 ++ [1], rfl⟩]⟩, "USDX", 6, 0⟩, db := {}, now := 0 }, []) with
      | .ok _ (s₀, _) =>
        match applyManifest ⟨List.replicate 19 0 ++ [1], rfl⟩ { accounts := [{ owner := "custody", asset := "USDX" }] } (s₀, []) with
        | .ok _ (s₁, _) =>
          match applyManifest ⟨List.replicate 19 0 ++ [1], rfl⟩ { accounts := [{ owner := "custody", asset := "USDX" }] } (s₁, []) with
          | .ok t₂ _ => t₂.created
          | .error _ _ => []
        | .error _ _ => []
      | .error _ _ => []) = ["account/"] := by decide +kernel
  cases h₀ : (ensureAppConfig ⟨List.replicate 19 0 ++ [1], rfl⟩ ⟨List.replicate 19 0 ++ [2], rfl⟩ *> ensureStableAsset ⟨List.replicate 19 0 ++ [1], rfl⟩) ({ engine := ⟨⟨[⟨List.replicate 19 0 ++ [1], rfl⟩]⟩, "USDX", 6, 0⟩, db := {}, now := 0 }, []) with
  | error f st =>
    rw [h₀] at hrun
    cases hrun
  | ok u st₀ =>
    obtain ⟨s₀, hs₀⟩ := st₀
    rw [h₀] at hrun
    dsimp only at hrun
    cases h₁ : applyManifest ⟨List.replicate 19 0 ++ [1], rfl⟩ { accounts := [{ owner := "custody", asset := "USDX" }] } (s₀, []) with
    | error f st =>
      rw [h₁] at hrun
      cases hrun
    | ok t₁ st₁ =>
      obtain ⟨s₁, hs₁⟩ := st₁
      rw [h₁] at hrun
      dsimp only at hrun
      cases h₂ : applyManifest ⟨List.replicate 19 0 ++ [1], rfl⟩ { accounts := [{ owner := "custody", asset := "USDX" }] } (s₁, []) with
      | error f st =>
        rw [h₂] at hrun
        cases hrun
      | ok t₂ st₂ =>
        rw [h₂] at hrun
        exact ⟨s₀, hs₀, t₁, s₁, hs₁, t₂, st₂.1, st₂.2, rfl, h₁, h₂, hrun⟩

end Issuance.Api
