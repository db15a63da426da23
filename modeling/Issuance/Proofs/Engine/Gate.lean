import Mathlib
import Issuance.Proofs.Engine.Failures
import Issuance.Api.Session.Run
/-! # Only administrators change the engine

An administrator's step checks the caller first; any other caller is refused
as unauthorized, leaving the session unchanged. Steps anyone may take are
never refused so (`Engine.fails_mint` and its siblings). -/
namespace Issuance.Api

open Store Txn Engine

/-- The steps that run an administrator's operation. -/
def adminSteps : List String :=
  ["create_app_config", "set_app_config", "create_mint_channel", "create_burn_channel", "withdraw_fee",
    "release_asset_custody", "create_asset", "create_feed", "submit_round", "set_mint_channel", "set_burn_channel"]

/-- The steps that run the engine's other operations: conversions, quotes,
opening an account and the queries. -/
def openSteps : List String :=
  ["mint", "burn", "quote_mint", "quote_burn", "open_account", "get_app_config", "account", "accounts_by_owner",
    "list_feeds", "get_mint_channel", "get_burn_channel", "list_mint_channels", "list_burn_channels"]

/-! ## Readings -/

/-- Every answer a reading yields satisfies `P`. -/
def Yields {α : Type} (P : α → Prop) (r : Read α) : Prop := ∀ a, r = .ok a → P a

namespace Yields

variable {α β : Type} {P : β → Prop}

theorem pure {b : β} (h : P b) : Yields P (Pure.pure b) := by
  intro b' hb
  cases hb
  exact h

theorem bind {x : Read α} {g : α → Read β} (hg : ∀ a, x = .ok a → Yields P (g a)) : Yields P (x >>= g) := by
  intro b hb
  cases hx : x with
  | error m =>
    rw [hx] at hb
    cases hb
  | ok a =>
    rw [hx] at hb
    exact hg a hx b hb

end Yields

theorem Session.step_of_engineStep {s : Session} {j : Json} {name : String} {r : Read (Session × Outcome)}
    (hop : str j "op" = .ok name) (hr : engineStep s j name = some r) :
    (∃ p, r = .ok p ∧ s.step j = p) ∨ ∃ m, r = .error m ∧ s.step j = (s, .malformed m) := by
  unfold Session.step
  simp only [hop, hr, bind, Except.bind]
  cases r with
  | ok p => exact .inl ⟨p, rfl, rfl⟩
  | error m => exact .inr ⟨m, rfl, rfl⟩

/-! ## The gate -/

/-- The refusal of a caller that is not an administrator. -/
def refusal (caller : Address) : Fault := Fault.raise .unauthorized caller.toText

/-- An engine given the addresses `given` refuses every caller outside them,
and the zero address whether given or not. -/
theorem authorize_outsider {given : List Address} {caller : Address} (h : caller ∉ given ∨ caller.isZero = true) :
    Issuance.authorize (some (Admins.ofList given)) caller = .error (refusal caller) := by
  have hc : (Admins.ofList given).contains caller = false := by
    rw [Bool.eq_false_iff]
    intro hin
    obtain ⟨hmem, hz⟩ := contains_ofList.mp hin
    rcases h with h | h
    · exact h hmem
    · rw [hz] at h
      cases h
  simp [Issuance.authorize, hc, refusal]

theorem Session.admin_refused {α : Type} {s : Session} {caller : Address} {f : Fault}
    (h : s.engine.authorize caller = .error f) (op : Txn (α × List Event)) (view : α → Json) :
    s.admin caller op view = (s, .failed f) := by
  simp [Session.admin, h]

/-! ## What anyone may do -/

/-- An outcome that is not the refusal of a caller. -/
def Outcome.Unrefused (o : Outcome) : Prop := ∀ f, o = .failed f → f.NotUnauthorized

theorem runAtomic_error {α : Type} {db : Database} {op : Txn (α × List Event)} {f : Fault}
    (h : runAtomic db op = .error f) : atomic db op = .error f := by
  unfold runAtomic at h
  cases ha : atomic db op with
  | error f' =>
    rw [ha] at h
    cases h
    rfl
  | ok p =>
    obtain ⟨⟨a, evs⟩, db'⟩ := p
    rw [ha] at h
    cases h

theorem Session.commit_unrefused {α : Type} (s : Session) {op : Txn (α × List Event)}
    (h : Fails Fault.NotUnauthorized op) (view : α → Json) : (s.commit op view).2.Unrefused := by
  intro f hf
  cases ha : runAtomic s.db op with
  | ok p => simp [Session.commit, ha] at hf
  | error f' =>
    simp only [Session.commit, ha, Outcome.failed.injEq] at hf
    subst hf
    rcases atomic_error (runAtomic_error ha) with hm | hc
    · exact h _ _ hm
    · exact hc.notUnauthorized

theorem Session.query_unrefused {α : Type} (s : Session) {op : Txn α} (h : Fails Fault.NotUnauthorized op)
    (view : α → Json) : (s.query op view).2.Unrefused := by
  intro f hf
  cases hv : runView s.db op with
  | ok a => simp [Session.query, hv, Outcome.quiet] at hf
  | error f' =>
    simp only [Session.query, hv, Outcome.failed.injEq] at hf
    subst hf
    exact h _ _ (view_error hv)

theorem ChannelId.parse_error {raw : String} {f : Fault} (h : ChannelId.parse raw = .error f) : f.NotUnauthorized := by
  unfold ChannelId.parse at h
  split at h
  · cases h
  · cases h
    exact Fault.notUnauthorized_raise (by decide) _

theorem channelOf_error {k : Kind} {j : Json} {f : Fault} (h : channelOf k j = .ok (.error f)) : f.NotUnauthorized := by
  unfold channelOf at h
  split at h
  · cases hs : str j "channel" with
    | error m => simp [hs, bind, Except.bind] at h
    | ok raw =>
      simp only [hs, bind, Except.bind, pure, Except.pure, Except.ok.injEq] at h
      exact ChannelId.parse_error h
  · cases hs : str j "path" with
    | error m => simp [hs, bind, Except.bind] at h
    | ok p => simp [hs, bind, Except.bind, pure, Except.pure] at h

theorem withChannel_unrefused {s : Session} {k : Kind} {j : Json} {c : Except Fault ChannelId}
    {g : ChannelId → Session × Outcome} (hc : channelOf k j = .ok c) (hg : ∀ id, (g id).2.Unrefused) :
    (withChannel s c g).2.Unrefused := by
  cases c with
  | ok id => exact hg id
  | error e =>
    intro f hf
    cases hf
    exact channelOf_error hc

/-! ## Every step -/

/-- What an administrator's request must give for the engine to be reached:
a caller, and a channel and a basket that decode. -/
structure Readable (j : Json) (caller : Address) : Prop where
  caller : address j "caller" = .ok caller
  channel : ∀ k f, channelOf k j ≠ .ok (.error f)
  basket : ∀ f, basketOf j ≠ .ok (.error f)

/-- The fields a step reads from its request decode. -/
def Decodes (s : Session) (j : Json) (name : String) : Prop := ∃ p, engineStep s j name = some (.ok p)

/-- Each administrator's step, for a caller the engine refuses, yields the
refusal with the session as it was. -/
theorem engineStep_refused {s : Session} {j : Json} {caller : Address} {f : Fault} {name : String}
    (hn : name ∈ adminSteps) (hj : Readable j caller) (hauth : s.engine.authorize caller = .error f) :
    ∃ r, engineStep s j name = some r ∧ Yields (· = (s, .failed f)) r := by
  have hc : ∀ a, address j "caller" = .ok a → a = caller := by
    intro a ha
    rw [hj.caller] at ha
    cases ha
    rfl
  have decoded : ∀ {k c}, channelOf k j = .ok c → ∃ id, c = .ok id := by
    intro k c h
    cases c with
    | ok id => exact ⟨id, rfl⟩
    | error e => exact absurd h (hj.channel k e)
  simp only [adminSteps, List.mem_cons, List.not_mem_nil, or_false] at hn
  rcases hn with rfl | rfl | rfl | rfl | rfl | rfl | rfl | rfl | rfl | rfl | rfl
  all_goals
    refine ⟨_, rfl, Yields.bind fun a ha => ?_⟩
    obtain rfl := hc a ha
  -- nine steps read plain fields only before the engine is called
  iterate 9
    · repeat refine Yields.bind fun _ _ => ?_
      exact Yields.pure (Session.admin_refused hauth _ _)
  · -- a mint channel's setting reads its channel and its basket
    refine Yields.bind fun c hc => ?_
    obtain ⟨id, rfl⟩ := decoded hc
    refine Yields.bind fun _ _ => Yields.bind fun _ _ => Yields.bind fun _ _ => Yields.bind fun b hb => ?_
    cases b with
    | error e => exact absurd hb (hj.basket e)
    | ok legs => exact Yields.pure (Session.admin_refused hauth _ _)
  · refine Yields.bind fun c hc => ?_
    obtain ⟨id, rfl⟩ := decoded hc
    repeat refine Yields.bind fun _ _ => ?_
    exact Yields.pure (Session.admin_refused hauth _ _)

theorem engineStep_unrefused (s : Session) (j : Json) {name : String} (hn : name ∈ openSteps) :
    ∃ r, engineStep s j name = some r ∧ Yields (fun p => p.2.Unrefused) r := by
  simp only [openSteps, List.mem_cons, List.not_mem_nil, or_false] at hn
  rcases hn with rfl | rfl | rfl | rfl | rfl | rfl | rfl | rfl | rfl | rfl | rfl | rfl | rfl
  all_goals refine ⟨_, rfl, ?_⟩
  · -- mint
    refine Yields.bind fun c hc => ?_
    repeat refine Yields.bind fun _ _ => ?_
    exact Yields.pure (withChannel_unrefused hc fun id => Session.commit_unrefused _ (fails_mint _ _ _) _)
  · -- burn
    refine Yields.bind fun c hc => ?_
    repeat refine Yields.bind fun _ _ => ?_
    exact Yields.pure (withChannel_unrefused hc fun id => Session.commit_unrefused _ (fails_burn _ _ _) _)
  · -- quote_mint
    refine Yields.bind fun c hc => Yields.bind fun _ _ => ?_
    exact Yields.pure (withChannel_unrefused hc fun id => Session.query_unrefused _ (fails_quoteMint _ _ _ _) _)
  · -- quote_burn
    refine Yields.bind fun c hc => Yields.bind fun _ _ => ?_
    exact Yields.pure (withChannel_unrefused hc fun id => Session.query_unrefused _ (fails_quoteBurn _ _ _ _) _)
  · -- open_account: a zero owner is refused as invalid input
    refine Yields.bind fun owner _ => Yields.bind fun _ _ => Yields.bind fun _ _ => ?_
    split
    · refine Yields.pure fun f hf => ?_
      cases hf
      exact Fault.notUnauthorized_raise (by decide) _
    · exact Yields.pure (Session.commit_unrefused _ (fails_openAccount _ _ _ _) _)
  · exact Yields.pure (Session.query_unrefused _ fails_getAppConfig _)
  · exact Yields.bind fun _ _ => Yields.pure (Session.query_unrefused _ (fails_account _) _)
  · exact Yields.bind fun _ _ => Yields.pure (Session.query_unrefused _ (fails_accountsByOwner _) _)
  · exact Yields.pure (Session.query_unrefused _ fails_listFeeds _)
  · exact Yields.bind fun c hc =>
      Yields.pure (withChannel_unrefused hc fun id => Session.query_unrefused _ (fails_getMintChannel _ _) _)
  · exact Yields.bind fun c hc =>
      Yields.pure (withChannel_unrefused hc fun id => Session.query_unrefused _ (fails_getBurnChannel _ _) _)
  · exact Yields.pure (Session.query_unrefused _ (fails_listMintChannels _) _)
  · exact Yields.pure (Session.query_unrefused _ (fails_listBurnChannels _) _)

/-- An administrator's step from outside `given` leaves the session silent
and unchanged: it is refused exactly when its fields decode, and is malformed
otherwise. Nothing else is unauthorized. -/
theorem administration_is_gated (given : List Address) (s : Session) (hs : s.engine.admins = Admins.ofList given)
    (j : Json) (name : String) (hop : str j "op" = .ok name) :
    (∀ caller, name ∈ adminSteps → Readable j caller → caller ∉ given ∨ caller.isZero = true →
      (s.step j).1 = s ∧ (s.step j).2.events = [] ∧
        ((s.step j).2 = .failed (refusal caller) ↔ Decodes s j name) ∧
        (¬Decodes s j name → ∃ m, (s.step j).2 = .malformed m)) ∧
    (name ∈ openSteps → (s.step j).2.Unrefused) := by
  constructor
  · intro caller hn hj hout
    have hauth : s.engine.authorize caller = .error (refusal caller) := by
      rw [Engine.authorize, hs]
      exact authorize_outsider hout
    obtain ⟨r, hr, hy⟩ := engineStep_refused hn hj hauth
    rcases Session.step_of_engineStep hop hr with ⟨p, rfl, hstep⟩ | ⟨m, rfl, hstep⟩
    · -- the fields decode, and the engine refuses the caller
      have hdec : Decodes s j name := ⟨p, hr⟩
      rw [hstep, hy p rfl]
      exact ⟨rfl, rfl, iff_of_true rfl hdec, fun h => absurd hdec h⟩
    · -- a field does not decode
      have hdec : ¬Decodes s j name := fun ⟨p, hp⟩ => by simp [hr] at hp
      rw [hstep]
      exact ⟨rfl, rfl, iff_of_false (by simp) hdec, fun _ => ⟨m, rfl⟩⟩
  · intro hn
    obtain ⟨r, hr, hy⟩ := engineStep_unrefused s j hn
    rcases Session.step_of_engineStep hop hr with ⟨p, hp, hstep⟩ | ⟨m, -, hstep⟩
    · rw [hstep]
      exact hy p hp
    · rw [hstep]
      exact nofun

/-- An engine administered by address 1 refuses address 2's request, whose
fields decode, to create a mint channel. -/
theorem administration_refuses_outsider :
    let admin : Address := ⟨List.replicate 19 0 ++ [1], rfl⟩
    let outsider : Address := ⟨List.replicate 19 0 ++ [2], rfl⟩
    let s : Session := { engine := ⟨Admins.ofList [admin], "USDX", 6, 0⟩, db := {}, now := 0 }
    let j := Json.obj [("op", .str "create_mint_channel"),
      ("caller", .str "0000000000000000000000000000000000000002"), ("path", .str "basket")]
    Readable j outsider ∧ Decodes s j "create_mint_channel" ∧
      (s.step j).1 = s ∧ (s.step j).2.events = [] ∧ (s.step j).2 = .failed (refusal outsider) := by
  intro admin outsider s j
  have hj : Readable j outsider := ⟨rfl, fun k f h => (nomatch h), fun f h => (nomatch h)⟩
  have hdec : Decodes s j "create_mint_channel" := ⟨_, rfl⟩
  obtain ⟨hs, hev, hfail, -⟩ :=
    (administration_is_gated [admin] s rfl j "create_mint_channel" rfl).1 outsider (by decide) hj (.inl (by decide))
  exact ⟨hj, hdec, hs, hev, hfail.2 hdec⟩

end Issuance.Api
