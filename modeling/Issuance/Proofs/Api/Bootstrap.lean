import Mathlib
import Issuance.Proofs.Engine.Persistence
import Issuance.Proofs.Engine.Gate
/-! # Applying a manifest twice

An application creates what is missing and finds what is there. Where the
manifest is in place (`InPlace`) it changes nothing, and the first
application puts it in place (`Kept`). An account without an id is opened
afresh each time. -/
namespace Issuance.Api

open Store Txn Bank Channel Engine

/-! ## Runs of a chain -/

namespace Chain

variable {α β : Type} {st st' st'' : Session × List Happening}

theorem bind_ok {x : Chain α} {f : α → Chain β} {b : β} (h : (x >>= f) st = .ok b st'') :
    ∃ a st', x st = .ok a st' ∧ f a st' = .ok b st'' := by
  simp only [bind, EStateM.bind] at h
  split at h
  · exact ⟨_, _, ‹_›, h⟩
  · cases h

theorem attempt_ok {m : Chain α} {r : Except Fault α} (h : attempt m st = .ok r st') :
    (∃ a, m st = .ok a st' ∧ r = .ok a) ∨ ∃ f, m st = .error f st' ∧ r = .error f := by
  unfold attempt at h
  split at h <;> cases h
  · exact .inl ⟨_, ‹_›, rfl⟩
  · exact .inr ⟨_, ‹_›, rfl⟩

theorem fail_ne_ok {f : Fault} {a : α} : fail f st ≠ .ok a st' := nofun

theorem within_ok {s : String} {m : Chain α} {a : α} (h : within s m st = .ok a st') : m st = .ok a st' := by
  unfold within at h
  split at h <;> cases h
  assumption

theorem now_ok {a : Int} (h : now st = .ok a st') : a = st.1.now ∧ st' = st := by
  cases h
  exact ⟨rfl, rfl⟩

theorem query_ok {op : Txn α} {a : α} (h : query op st = .ok a st') : runView st.1.db op = .ok a ∧ st' = st := by
  unfold query at h
  split at h <;> cases h
  exact ⟨‹_›, rfl⟩

theorem query_error {op : Txn α} {f : Fault} (h : query op st = .error f st') :
    runView st.1.db op = .error f ∧ st' = st := by
  unfold query at h
  split at h <;> cases h
  exact ⟨‹_›, rfl⟩

theorem commit_ok {name : String} {op : Txn (α × List Event)} {a : α} {s : Session} {hs : List Happening}
    (h : commit name op (s, hs) = .ok a st') :
    ∃ es db', runAtomic s.db op = .ok (a, es, db') ∧ st'.1 = { s with db := db' } := by
  dsimp only [commit] at h
  cases hr : runAtomic s.db op with
  | ok p =>
    obtain ⟨a', es, db'⟩ := p
    rw [hr] at h
    cases h
    exact ⟨es, db', rfl, rfl⟩
  | error f =>
    rw [hr] at h
    cases h

theorem commit_error {name : String} {op : Txn (α × List Event)} {f : Fault} {s : Session} {hs : List Happening}
    (h : commit name op (s, hs) = .error f st') : runAtomic s.db op = .error f ∧ st'.1 = s := by
  dsimp only [commit] at h
  cases hr : runAtomic s.db op with
  | ok p =>
    rw [hr] at h
    cases h
  | error f' =>
    rw [hr] at h
    cases h
    exact ⟨rfl, rfl⟩

theorem admin_ok {caller : Address} {name : String} {op : Txn (α × List Event)} {a : α} {s : Session}
    {hs : List Happening} (h : admin caller name op (s, hs) = .ok a st') :
    s.engine.authorize caller = .ok () ∧ commit name op (s, hs) = .ok a st' := by
  unfold admin at h
  split at h
  · cases h
  · exact ⟨‹_›, h⟩

theorem admin_error {caller : Address} {name : String} {op : Txn (α × List Event)} {f : Fault} {s : Session}
    {hs : List Happening} (h : admin caller name op (s, hs) = .error f st') :
    (s.engine.authorize caller = .error f ∨ s.engine.authorize caller = .ok () ∧ runAtomic s.db op = .error f) ∧
      st'.1 = s := by
  unfold admin at h
  split at h
  · cases h
    exact ⟨.inl ‹_›, rfl⟩
  · obtain ⟨hr, hs'⟩ := commit_error h
    exact ⟨.inr ⟨‹_›, hr⟩, hs'⟩

end Chain

theorem authorize_error_cause {e : Engine} {caller : Address} {f : Fault} (h : e.authorize caller = .error f) :
    f.cause = none := by
  unfold Engine.authorize Issuance.authorize at h
  split at h
  · cases h
    rfl
  · split at h <;> cases h
    rfl

/-! ## A database that answers every call -/

section
variable {S : Store}

theorem Tx.commit_plain {tx : Tx} (hdb : tx.db = { store := S }) : ∃ S', tx.commit = .ok { store := S' } := by
  unfold Tx.commit
  split
  · exact ⟨S, by rw [hdb]⟩
  · simp [hdb, Database.write, Database.trips, Database.closedFault]

/-- An operation that only stages writes, run as one transaction on such a
database, commits what it left, to such a database. -/
theorem atomic_plain {α : Type} {m : Txn α} {r : α} {db' : Database}
    (hst : ∀ r tx', Returns m { db := { store := S } } r tx' → Tx.Stages (fun _ => True) { db := { store := S } } tx')
    (h : atomic { store := S } m = .ok (r, db')) :
    ∃ tx', Returns m { db := { store := S } } r tx' ∧ db' = { store := db'.store } ∧ db'.store.get? = tx'.lookup := by
  obtain ⟨tx', hm, hc⟩ := atomic_eq_ok h
  have hs := hst r tx' hm
  obtain ⟨S', hc'⟩ := Tx.commit_plain (hs.frame.1.trans rfl)
  rw [hc] at hc'
  cases hc'
  exact ⟨tx', hm, rfl, atomic_lookup hs hc⟩

theorem atomic_error_plain {α : Type} {m : Txn α} {f : Fault}
    (hst : ∀ r tx', Returns m { db := { store := S } } r tx' → Tx.Stages (fun _ => True) { db := { store := S } } tx')
    (h : atomic { store := S } m = .error f) : m { db := { store := S } } = .error f := by
  unfold atomic at h
  cases hm : m { db := { store := S } } with
  | error f' =>
    rw [hm] at h
    cases h
    rfl
  | ok p =>
    obtain ⟨r, tx'⟩ := p
    obtain ⟨S', hc⟩ := Tx.commit_plain ((hst r tx' hm).frame.1.trans rfl)
    rw [hm] at h
    simp [bind, Except.bind, hc, pure, Except.pure] at h

theorem Tx.raw_start (k : Bytes) : ({ db := { store := S } } : Tx).raw k = .ok (({ db := { store := S } } : Tx).lookup k) :=
  Tx.raw_of_db rfl k

theorem runAtomic_ok {α : Type} {db db' : Database} {op : Txn (α × List Event)} {a : α} {es : List Event}
    (h : runAtomic db op = .ok (a, es, db')) : atomic db op = .ok ((a, es), db') := by
  unfold runAtomic at h
  cases ha : atomic db op with
  | error f =>
    rw [ha] at h
    cases h
  | ok p =>
    obtain ⟨⟨a', es'⟩, db''⟩ := p
    rw [ha] at h
    cases h
    rfl

/-- An operation of the engine that committed on such a database ran from
the database's start, and the session holds a database of what it left. -/
theorem commit_op_ok {name : String} (o : Op) (e : Engine) (ctx : Context) {a : o.Result} {s s' : Session}
    {hs hs' : List Happening} (h : Chain.commit name (o.txn e ctx) (s, hs) = .ok a (s', hs'))
    (hdb : s.db = { store := S }) :
    ∃ es tx' S', Returns (o.txn e ctx) { db := { store := S } } (a, es) tx' ∧ tx'.lookup = S'.get? ∧
      s' = { s with db := { store := S' } } := by
  obtain ⟨es, db', hr, hs'⟩ := Chain.commit_ok h
  rw [hdb] at hr
  obtain ⟨tx', hm, hdb', hl⟩ := atomic_plain (fun _ _ => Op.stages) (runAtomic_ok hr)
  refine ⟨es, tx', db'.store, hm, hl.symm, ?_⟩
  rw [← hdb']
  exact hs'

theorem commit_op_error (o : Op) (e : Engine) (ctx : Context) {db : Database} {f : Fault}
    (h : runAtomic db (o.txn e ctx) = .error f) (hdb : db = { store := S }) : o.txn e ctx { db := { store := S } } = .error f := by
  subst hdb
  exact atomic_error_plain (fun _ _ => Op.stages) (runAtomic_error h)

theorem runView_ok {α : Type} {op : Txn α} {a : α} (h : runView { store := S } op = .ok a) :
    ∃ tx', Returns op { db := { store := S }, readOnly := true } a tx' := by
  unfold runView view at h
  cases hm : op { db := { store := S }, readOnly := true } with
  | error f =>
    rw [hm] at h
    cases h
  | ok p =>
    obtain ⟨a', tx'⟩ := p
    rw [hm] at h
    cases h
    exact ⟨tx', hm⟩

end

end Issuance.Api

namespace Issuance

open Store Bank Channel Api

/-! ## A manifest in place -/

section
variable (e : Engine) (operator custody : Address) (L : Bytes → Option Bytes)

/-- An asset entry is in place when the operator may create it and its
creation would be refused as existing. -/
structure AssetEntry.InPlace (a : AssetEntry) : Prop where
  authorized : e.authorize operator = .ok ()
  authority : ∃ x, ownerOf a.authority custody = .ok x
  decimals : checkDecimals a.decimals = .ok ()
  id : Text.trim a.id ≠ ""
  stored : Present L (assetKey (Text.trim a.id))

/-- A feed entry is in place when the operator may create it and its
creation would be refused as existing. -/
structure FeedEntry.InPlace (f : FeedEntry) : Prop where
  authorized : e.authorize operator = .ok ()
  id : Text.trim f.id ≠ ""
  decimals : ¬ f.decimals > Amount.maxDecimals
  stored : Present L (Feed.key (Text.trim f.id))

/-- An account entry is in place when its owner is an address and opening
it would be refused as existing. -/
structure AccountEntry.InPlace (a : AccountEntry) : Prop where
  owner : ∃ x, ownerOf a.owner custody = .ok x ∧ x.isZero = false
  id : Text.trim a.id ≠ ""
  asset : (assetIn L (Text.trim a.asset)).isSome
  stored : Present L (accountKey (Text.trim a.id))

/-- A mint channel entry is in place when its channel is found. -/
def MintChannelEntry.InPlace (c : MintChannelEntry) : Prop :=
  (mintChannelIn L (ChannelId.derive .mint (Text.trim c.path))).isSome

/-- A burn channel entry is in place when its channel is found. -/
def BurnChannelEntry.InPlace (c : BurnChannelEntry) : Prop :=
  (burnChannelIn L (ChannelId.derive .burn (Text.trim c.path))).isSome

/-- A manifest is in place when the settings name the custodial signer and
have its rolling period, if it sets one, and every entry is in place. -/
structure Manifest.InPlace (m : Manifest) : Prop where
  config : ∃ cfg, appConfigIn L = some cfg ∧ cfg.custodialSigner = custody ∧
    (m.rollingPeriodHours = 0 ∨ cfg.rollingPeriodHours = m.rollingPeriodHours)
  assets : ∀ a ∈ m.assets, a.InPlace e operator custody L
  feeds : ∀ f ∈ m.feeds, f.InPlace e operator L
  accounts : ∀ a ∈ m.accounts, a.InPlace custody L
  mints : ∀ c ∈ m.mintChannels, c.InPlace L
  burns : ∀ c ∈ m.burnChannels, c.InPlace L

end

/-- What an application reports for the entries of a manifest, in order:
the kind and the id as declared, a channel by its trimmed path. -/
def Manifest.declared (m : Manifest) : List String :=
  m.assets.map (fun a => "asset/" ++ a.id) ++ m.feeds.map (fun f => "feed/" ++ f.id) ++
    m.accounts.map (fun a => "account/" ++ a.id) ++ m.mintChannels.map (fun c => "mint/" ++ Text.trim c.path) ++
    m.burnChannels.map (fun c => "burn/" ++ Text.trim c.path)

section
variable {e : Engine} {operator custody : Address} {L L' : Bytes → Option Bytes}

theorem AssetEntry.InPlace.kept {a : AssetEntry} (h : a.InPlace e operator custody L) (hk : Kept L L') :
    a.InPlace e operator custody L' :=
  { h with stored := hk.present _ h.stored }

theorem FeedEntry.InPlace.kept {f : FeedEntry} (h : f.InPlace e operator L) (hk : Kept L L') : f.InPlace e operator L' :=
  { h with stored := hk.present _ h.stored }

theorem AccountEntry.InPlace.kept {a : AccountEntry} (h : a.InPlace custody L) (hk : Kept L L') :
    a.InPlace custody L' :=
  { h with asset := hk.asset_isSome h.asset, stored := hk.present _ h.stored }

theorem MintChannelEntry.InPlace.kept {c : MintChannelEntry} (h : c.InPlace L) (hk : Kept L L') : c.InPlace L' :=
  hk.mints _ h

theorem BurnChannelEntry.InPlace.kept {c : BurnChannelEntry} (h : c.InPlace L) (hk : Kept L L') : c.InPlace L' :=
  hk.burns _ h

end

end Issuance

namespace Issuance.Api

open Store Txn Bank Channel Engine

/-! ## Applying a manifest that is in place -/

section
variable {S : Store} {s : Session} {operator custody : Address}

/-- On a store where every asset entry is in place, applying them finds
each one, and the session stays as it was. -/
theorem applyAssets_finds (hdb : s.db = { store := S }) (hcfg : (appConfigIn S.get?).isSome) :
    ∀ (as : List AssetEntry) (t : Tally) (hs : List Happening), (∀ a ∈ as, a.InPlace s.engine operator custody S.get?) →
      ∃ hs', applyAssets operator custody as t (s, hs) =
        .ok { t with skipped := t.skipped ++ as.map (fun a => "asset/" ++ a.id) } (s, hs')
  | [], t, hs, _ => ⟨hs, by simp [applyAssets, pure, EStateM.pure]⟩
  | a :: rest, t, hs, h => by
    obtain ⟨hauth, ⟨x, hx⟩, hdec, hid, hstored⟩ := h a (List.mem_cons_self ..)
    obtain ⟨f, hf, hc⟩ : ∃ f, Engine.createAsset a.id a.decimals x { db := { store := S } } = .error f ∧
        f.cause = some .assetExists :=
      (createAsset_exists_iff Tx.raw_start rfl).mpr ⟨hdec, fun _ => by simpa using hcfg, hid, by simpa using hstored⟩
    have hrun : runAtomic s.db (Engine.createAsset a.id a.decimals x) = .error f := by
      simp [hdb, runAtomic, atomic, hf, bind, Except.bind]
    obtain ⟨hs', h'⟩ := applyAssets_finds hdb hcfg rest (t.found ("asset/" ++ a.id))
      (hs ++ [.refused "create_asset" f]) (fun a' ha' => h a' (List.mem_cons_of_mem _ ha'))
    refine ⟨hs', ?_⟩
    rw [applyAssets]
    simp only [bind, EStateM.bind, hx, pure, EStateM.pure, Chain.attempt, Chain.admin, Chain.commit, hauth, hrun, hc,
      if_true]
    rw [h']
    simp [Tally.found]

theorem applyFeeds_finds (hdb : s.db = { store := S }) :
    ∀ (fs : List FeedEntry) (t : Tally) (hs : List Happening), (∀ f ∈ fs, f.InPlace s.engine operator S.get?) →
      ∃ hs', applyFeeds operator fs t (s, hs) =
        .ok { t with skipped := t.skipped ++ fs.map (fun f => "feed/" ++ f.id) } (s, hs')
  | [], t, hs, _ => ⟨hs, by simp [applyFeeds, pure, EStateM.pure]⟩
  | f :: rest, t, hs, h => by
    obtain ⟨hauth, hid, hdec, hstored⟩ := h f (List.mem_cons_self ..)
    obtain ⟨x, hx, hc⟩ : ∃ x, Engine.createFeed f.id f.description f.decimals { db := { store := S } } = .error x ∧
        x.cause = some .feedExists :=
      (createFeed_exists_iff Tx.raw_start rfl).mpr ⟨hid, hdec, by simpa using hstored⟩
    have hrun : runAtomic s.db (Engine.createFeed f.id f.description f.decimals) = .error x := by
      simp [hdb, runAtomic, atomic, hx, bind, Except.bind]
    obtain ⟨hs', h'⟩ := applyFeeds_finds hdb rest (t.found ("feed/" ++ f.id))
      (hs ++ [.refused "create_feed" x]) (fun f' hf' => h f' (List.mem_cons_of_mem _ hf'))
    refine ⟨hs', ?_⟩
    rw [applyFeeds]
    simp only [bind, EStateM.bind, Chain.attempt, Chain.admin, Chain.commit, hauth, hrun, hc, if_true]
    rw [h']
    simp [Tally.found]

/-- On a store where every account entry is in place, applying them finds
each one; the session only hands out fresh identifiers. -/
theorem applyAccounts_finds :
    ∀ (as : List AccountEntry) (t : Tally) (s : Session) (hs : List Happening), s.db = { store := S } →
      (∀ a ∈ as, a.InPlace custody S.get?) →
      ∃ s' hs', applyAccounts custody as t (s, hs) =
        .ok { t with skipped := t.skipped ++ as.map (fun a => "account/" ++ a.id) } (s', hs') ∧
          s'.db = s.db ∧ s'.engine = s.engine
  | [], t, s, hs, _, _ => ⟨s, hs, by simp [applyAccounts, pure, EStateM.pure], rfl, rfl⟩
  | a :: rest, t, s, hs, hdb, h => by
    obtain ⟨⟨x, hx, hz⟩, hid, hasset, hstored⟩ := h a (List.mem_cons_self ..)
    obtain ⟨f, hf, hc⟩ : ∃ f, Engine.openAccount s.context x a.id a.asset { db := { store := S } } = .error f ∧
        f.cause = some .accountExists :=
      (openAccount_exists_iff Tx.raw_start rfl).mpr ⟨by simpa using hasset, by simpa [hid] using hstored⟩
    have hrun : runAtomic s.advanceSerial.db (Engine.openAccount s.context x a.id a.asset) = .error f := by
      simp [Session.advanceSerial, Session.advanceBy, hdb, runAtomic, atomic, hf, bind, Except.bind]
    obtain ⟨s', hs', h', hdb', heng'⟩ := applyAccounts_finds rest (t.found ("account/" ++ a.id)) s.advanceSerial
      (hs ++ [.refused "open_account" f]) hdb (fun a' ha' => h a' (List.mem_cons_of_mem _ ha'))
    refine ⟨s', hs', ?_, hdb', heng'⟩
    rw [applyAccounts]
    simp only [bind, EStateM.bind, hx, pure, EStateM.pure, Chain.attempt, Chain.context, Chain.commit, hz, hrun, hc,
      if_true, Bool.false_eq_true, if_false]
    rw [h']
    simp [Tally.found]

theorem runView_getMintChannel (hdb : s.db = { store := S }) (now : Int) {id : ChannelId}
    (hc : (mintChannelIn S.get? id).isSome) (hcfg : (appConfigIn S.get?).isSome) :
    ∃ r, runView s.db (getMintChannel now id) = .ok r := by
  have hraw : ∀ k, ({ db := { store := S }, readOnly := true } : Tx).raw k = .ok (Tx.lookup _ k) := Tx.raw_of_db rfl
  have hl : ({ db := { store := S }, readOnly := true } : Tx).lookup = S.get? := Tx.lookup_view _
  rw [← hl] at hc hcfg
  obtain ⟨r, hr⟩ := getMintChannel_returns now hraw hc hcfg
  exact ⟨r, by simp [hdb, runView, view, hr, bind, Except.bind, pure, Except.pure]⟩

theorem runView_getBurnChannel (hdb : s.db = { store := S }) (now : Int) {id : ChannelId}
    (hc : (burnChannelIn S.get? id).isSome) (hcfg : (appConfigIn S.get?).isSome) :
    ∃ r, runView s.db (getBurnChannel now id) = .ok r := by
  have hraw : ∀ k, ({ db := { store := S }, readOnly := true } : Tx).raw k = .ok (Tx.lookup _ k) := Tx.raw_of_db rfl
  have hl : ({ db := { store := S }, readOnly := true } : Tx).lookup = S.get? := Tx.lookup_view _
  rw [← hl] at hc hcfg
  obtain ⟨r, hr⟩ := getBurnChannel_returns now hraw hc hcfg
  exact ⟨r, by simp [hdb, runView, view, hr, bind, Except.bind, pure, Except.pure]⟩

theorem applyMintChannels_finds (operator : Address) (hdb : s.db = { store := S }) (hcfg : (appConfigIn S.get?).isSome) :
    ∀ (cs : List MintChannelEntry) (t : Tally) (hs : List Happening), (∀ c ∈ cs, c.InPlace S.get?) →
      ∃ hs', applyMintChannels operator cs t (s, hs) =
        .ok { t with skipped := t.skipped ++ cs.map (fun c => "mint/" ++ Text.trim c.path) } (s, hs')
  | [], t, hs, _ => ⟨hs, by simp [applyMintChannels, pure, EStateM.pure]⟩
  | c :: rest, t, hs, h => by
    obtain ⟨r, hr⟩ := runView_getMintChannel hdb s.now (h c (List.mem_cons_self ..)) hcfg
    obtain ⟨hs', h'⟩ := applyMintChannels_finds operator hdb hcfg rest (t.found ("mint/" ++ Text.trim c.path)) hs
      (fun c' hc' => h c' (List.mem_cons_of_mem _ hc'))
    refine ⟨hs', ?_⟩
    rw [applyMintChannels]
    simp only [bind, EStateM.bind, Chain.now, Chain.attempt, Chain.query, hr]
    rw [h']
    simp [Tally.found]

theorem applyBurnChannels_finds (operator : Address) (hdb : s.db = { store := S }) (hcfg : (appConfigIn S.get?).isSome) :
    ∀ (cs : List BurnChannelEntry) (t : Tally) (hs : List Happening), (∀ c ∈ cs, c.InPlace S.get?) →
      ∃ hs', applyBurnChannels operator cs t (s, hs) =
        .ok { t with skipped := t.skipped ++ cs.map (fun c => "burn/" ++ Text.trim c.path) } (s, hs')
  | [], t, hs, _ => ⟨hs, by simp [applyBurnChannels, pure, EStateM.pure]⟩
  | c :: rest, t, hs, h => by
    obtain ⟨r, hr⟩ := runView_getBurnChannel hdb s.now (h c (List.mem_cons_self ..)) hcfg
    obtain ⟨hs', h'⟩ := applyBurnChannels_finds operator hdb hcfg rest (t.found ("burn/" ++ Text.trim c.path)) hs
      (fun c' hc' => h c' (List.mem_cons_of_mem _ hc'))
    refine ⟨hs', ?_⟩
    rw [applyBurnChannels]
    simp only [bind, EStateM.bind, Chain.now, Chain.attempt, Chain.query, hr]
    rw [h']
    simp [Tally.found]

theorem runView_getAppConfig (hdb : s.db = { store := S }) {cfg : AppConfig} (hcfg : appConfigIn S.get? = some cfg) :
    runView s.db getAppConfig = .ok cfg := by
  have hraw : ∀ k, ({ db := { store := S }, readOnly := true } : Tx).raw k = .ok (Tx.lookup _ k) := Tx.raw_of_db rfl
  have hl : ({ db := { store := S }, readOnly := true } : Tx).lookup = S.get? := Tx.lookup_view _
  rw [← hl] at hcfg
  simp [hdb, runView, view, getAppConfig, requireAppConfig_eq hraw hcfg, bind, Except.bind, pure, Except.pure]

/-- On a store where a manifest is in place, applying it finds every entry,
creates nothing and commits nothing. -/
theorem applyManifest_finds {m : Manifest} (hdb : s.db = { store := S })
    (h : m.InPlace s.engine operator custody S.get?) (hs : List Happening) :
    ∃ s' hs', applyManifest operator m (s, hs) = .ok ⟨[], m.declared⟩ (s', hs') ∧ s'.db = s.db ∧
      s'.engine = s.engine := by
  obtain ⟨cfg, hcfg, rfl, hhours⟩ := h.config
  have hsome : (appConfigIn S.get?).isSome := by rw [hcfg]; rfl
  have hq := runView_getAppConfig hdb hcfg
  -- the rolling period is as declared, so it is not set again
  have hkeep : (decide (m.rollingPeriodHours ≠ 0) && decide (m.rollingPeriodHours ≠ cfg.rollingPeriodHours)) =
      false := by
    rcases hhours with h0 | h1 <;> simp [*]
  obtain ⟨hs1, h1⟩ := applyAssets_finds hdb hsome m.assets {} hs h.assets
  obtain ⟨hs2, h2⟩ := applyFeeds_finds hdb m.feeds
    { skipped := ({} : Tally).skipped ++ m.assets.map (fun a => "asset/" ++ a.id) } hs1 h.feeds
  obtain ⟨s3, hs3, h3, hdb3, heng3⟩ := applyAccounts_finds m.accounts
    { skipped := ({} : Tally).skipped ++ m.assets.map (fun a => "asset/" ++ a.id) ++
      m.feeds.map (fun f => "feed/" ++ f.id) } s hs2 hdb h.accounts
  obtain ⟨hs4, h4⟩ := applyMintChannels_finds operator (hdb3.trans hdb) hsome m.mintChannels
    { skipped := ({} : Tally).skipped ++ m.assets.map (fun a => "asset/" ++ a.id) ++
      m.feeds.map (fun f => "feed/" ++ f.id) ++ m.accounts.map (fun a => "account/" ++ a.id) } hs3 h.mints
  obtain ⟨hs5, h5⟩ := applyBurnChannels_finds operator (hdb3.trans hdb) hsome m.burnChannels
    { skipped := ({} : Tally).skipped ++ m.assets.map (fun a => "asset/" ++ a.id) ++
      m.feeds.map (fun f => "feed/" ++ f.id) ++ m.accounts.map (fun a => "account/" ++ a.id) ++
      m.mintChannels.map (fun c => "mint/" ++ Text.trim c.path) } hs4 h.burns
  unfold applyManifest
  simp only [bind, EStateM.bind, Chain.within, Chain.query, hq, hkeep, Bool.false_eq_true, if_false, pure,
    EStateM.pure, h1, h2, h3, h4, h5, Chain.note]
  simp [Manifest.declared, hdb3, heng3]

end

end Issuance.Api
