import Mathlib
import Issuance.Proofs.Engine.Reach
import Issuance.Proofs.Store.Failures
/-! # Route order

Routes are matched to legs by trimmed asset, so permuting them leaves a
mint's outcome as it was, but a repeated asset is refused naming the first
repeat met, with the same class. -/
namespace Issuance

open Store Txn Channel Engine

/-- Two outcomes are the same, or both are failures of one class. -/
def Alike {α : Type} (r r' : Except Fault α) : Prop :=
  r = r' ∨ ∃ f f', r = .error f ∧ r' = .error f' ∧ f.code = f'.code

namespace Alike

variable {α β : Type} {tx : Tx}

theorem bind_left {m m' : Txn α} {k : α → Txn β} (h : Alike (m tx) (m' tx)) :
    Alike ((m >>= k) tx) ((m' >>= k) tx) := by
  rcases h with h | ⟨f, f', h, h', hc⟩
  · exact .inl (by simp only [bind, StateT.bind, h])
  · exact .inr ⟨f, f', by simp [bind, StateT.bind, h, Except.bind], by simp [bind, StateT.bind, h', Except.bind], hc⟩

theorem bind_right {m : Txn α} {k k' : α → Txn β} (h : ∀ a t, Alike (k a t) (k' a t)) :
    Alike ((m >>= k) tx) ((m >>= k') tx) := by
  cases hm : m tx with
  | error f => exact .inl (by simp [bind, StateT.bind, hm, Except.bind])
  | ok p =>
    simp only [bind, StateT.bind, hm, Except.bind]
    exact h p.1 p.2

theorem lift {r r' : Except Fault α} (h : Alike r r') : Alike (Txn.lift r tx) (Txn.lift r' tx) := by
  rcases h with rfl | ⟨f, f', rfl, rfl, hc⟩
  · exact .inl rfl
  · exact .inr ⟨f, f', rfl, rfl, hc⟩

theorem atomic {m m' : Txn α} {db : Database} (h : Alike (m { db := db }) (m' { db := db })) :
    Alike (Store.atomic db m) (Store.atomic db m') := by
  rcases h with h | ⟨f, f', h, h', hc⟩
  · exact .inl (by simp only [Store.atomic, h])
  · exact .inr ⟨f, f', by simp [Store.atomic, h, bind, Except.bind], by simp [Store.atomic, h', bind, Except.bind], hc⟩

end Alike

namespace Channel

/-- A route under its trimmed asset. -/
def Route.keyed (r : Route) : String × Route := (Text.trim r.asset, r)

/-- One step of gathering routes by trimmed asset, refusing a repeat. -/
abbrev gatherRoute (acc : List (String × Route)) (r : Route) : Except Fault (List (String × Route)) :=
  let a := Text.trim r.asset
  if acc.any (·.1 == a) then throw (Fault.raise .invalidInput ("asset " ++ a ++ " routed twice"))
  else pure (acc ++ [(a, r)])

theorem gatherRoute_raises (acc : List (String × Route)) (r : Route) :
    Raises (·.code = .invalidInput) (gatherRoute acc r) := by
  dsimp only [gatherRoute]
  split_ifs
  · exact Raises.error (Fault.code_raise _ _)
  · exact Raises.pure _

theorem foldlM_gatherRoute_eq_ok {acc m : List (String × Route)} (hacc : (acc.map Prod.fst).Nodup) :
    ∀ routes : List Route, routes.foldlM gatherRoute acc = .ok m ↔
      ((acc ++ routes.map Route.keyed).map Prod.fst).Nodup ∧ m = acc ++ routes.map Route.keyed := by
  intro routes
  induction routes generalizing acc with
  | nil =>
    simp only [List.foldlM_nil, List.map_nil, List.append_nil, hacc, true_and]
    exact ⟨fun h => (Except.ok.inj h).symm, fun h => h ▸ rfl⟩
  | cons r rs ih =>
    rw [List.foldlM_cons]
    by_cases hdup : acc.any (·.1 == Text.trim r.asset) = true
    · -- the asset is routed already: refused, and the keys repeat
      obtain ⟨x, hx, hxr⟩ := List.any_eq_true.mp hdup
      have hrep : ¬ ((acc ++ (r :: rs).map Route.keyed).map Prod.fst).Nodup := by
        rw [List.map_append, List.nodup_append]
        rintro ⟨-, -, hdisj⟩
        exact hdisj _ (List.mem_map_of_mem hx) (Text.trim r.asset) (by simp [Route.keyed]) (by simpa using hxr)
      simp only [gatherRoute, hdup, if_true, hrep, false_and, iff_false]
      intro h
      cases h
    · have hnew : Text.trim r.asset ∉ acc.map Prod.fst := by
        rw [Bool.not_eq_true, List.any_eq_false] at hdup
        intro hm
        obtain ⟨x, hx, hx1⟩ := List.mem_map.mp hm
        exact hdup x hx (by simp [hx1])
      have hacc' : ((acc ++ [r.keyed]).map Prod.fst).Nodup := by
        rw [List.map_append, List.nodup_append]
        refine ⟨hacc, by simp, fun a ha b hb => ?_⟩
        simp only [List.map_cons, List.map_nil, List.mem_singleton, Route.keyed] at hb
        rintro rfl
        exact hnew (hb ▸ ha)
      have hstep : gatherRoute acc r = .ok (acc ++ [r.keyed]) := by
        simp only [gatherRoute, hdup, Bool.false_eq_true, if_false]
        rfl
      simp only [hstep, bind, Except.bind]
      rw [ih hacc']
      simp [Route.keyed, List.append_assoc]

theorem foldlM_gatherRoute_of_nodup {routes : List Route} (hnd : ((routes.map Route.keyed).map Prod.fst).Nodup) :
    routes.foldlM gatherRoute [] = .ok (routes.map Route.keyed) :=
  (@foldlM_gatherRoute_eq_ok [] _ List.nodup_nil routes).mpr ⟨hnd, rfl⟩

theorem foldlM_gatherRoute_of_dup {routes : List Route} (hnd : ¬ ((routes.map Route.keyed).map Prod.fst).Nodup) :
    ∃ f, routes.foldlM gatherRoute [] = .error f ∧ f.code = .invalidInput := by
  cases h : routes.foldlM gatherRoute [] with
  | error f => exact ⟨f, rfl, Raises.foldlM gatherRoute_raises routes [] f h⟩
  | ok m => exact absurd ((@foldlM_gatherRoute_eq_ok [] _ List.nodup_nil routes).mp h).1 (by simpa using hnd)

theorem find?_key_eq_some {m : List (String × Route)} (hnd : (m.map Prod.fst).Nodup) {a : String}
    {p : String × Route} : m.find? (·.1 == a) = some p ↔ p ∈ m ∧ p.1 = a := by
  constructor
  · intro h
    exact ⟨List.mem_of_find?_eq_some h, by simpa using List.find?_some h⟩
  · rintro ⟨hp, rfl⟩
    obtain ⟨q, hq⟩ := Option.isSome_iff_exists.mp
      (List.find?_isSome.mpr ⟨p, hp, by simp⟩ : (m.find? (·.1 == p.1)).isSome)
    have hqm := List.mem_of_find?_eq_some hq
    rw [hq, List.inj_on_of_nodup_map hnd hqm hp (by simpa using List.find?_some hq)]

theorem find?_key_perm {m m' : List (String × Route)} (hp : m'.Perm m) (hnd : (m.map Prod.fst).Nodup)
    (a : String) : m'.find? (·.1 == a) = m.find? (·.1 == a) := by
  have hnd' : (m'.map Prod.fst).Nodup := (hp.map Prod.fst).nodup_iff.mpr hnd
  ext p
  rw [find?_key_eq_some hnd', find?_key_eq_some hnd, hp.mem_iff]

theorem matchRoutes_perm (basket : List Leg) {routes routes' : List Route} (hp : routes'.Perm routes) :
    Alike (matchRoutes basket routes') (matchRoutes basket routes) := by
  have hkeys : ((routes'.map Route.keyed).map Prod.fst).Nodup ↔ ((routes.map Route.keyed).map Prod.fst).Nodup :=
    ((hp.map Route.keyed).map Prod.fst).nodup_iff
  unfold matchRoutes
  rw [hp.length_eq]
  split_ifs with hl
  · exact .inl rfl
  by_cases hnd : ((routes.map Route.keyed).map Prod.fst).Nodup
  · -- distinct assets: both folds gather the routes, and lookups by asset agree
    rw [foldlM_gatherRoute_of_nodup hnd, foldlM_gatherRoute_of_nodup (hkeys.mpr hnd)]
    refine .inl ?_
    simp only [bind, Except.bind, find?_key_perm (hp.map Route.keyed) hnd]
  · obtain ⟨f, hf, hc⟩ := foldlM_gatherRoute_of_dup hnd
    obtain ⟨f', hf', hc'⟩ := foldlM_gatherRoute_of_dup (mt hkeys.mp hnd)
    rw [hf, hf']
    exact .inr ⟨f', f, rfl, rfl, hc'.trans hc.symm⟩

end Channel

namespace Engine

/-- Every step of a mint reads the routes only through the match, so a
permutation of them changes a mint run only where the match does. -/
theorem mint_route_perm (e : Engine) (ctx : Context) (req : MintRequest) {legs : List Route}
    (hp : legs.Perm req.legs) (tx : Tx) : Alike (mint e ctx { req with legs := legs } tx) (mint e ctx req tx) := by
  unfold mint
  dsimp only
  refine Alike.bind_right fun cfg t => Alike.bind_right fun c t => Alike.bind_right fun _ t => ?_
  split_ifs
  · exact .inl rfl
  · exact Alike.bind_left (Alike.lift (matchRoutes_perm _ hp))

/-- Permuting a mint's routes leaves its committed outcome as it was, receipt,
events and database included, or refuses both mints with one class. -/
theorem mint_ignores_route_order (e : Engine) (ctx : Context) (db : Database) (req : MintRequest)
    {legs : List Route} (hp : legs.Perm req.legs) :
    atomic db (mint e ctx { req with legs := legs }) = atomic db (mint e ctx req) ∨
      ∃ f f', atomic db (mint e ctx { req with legs := legs }) = .error f ∧
        atomic db (mint e ctx req) = .error f' ∧ f.code = f'.code :=
  Alike.atomic (mint_route_perm e ctx req hp _)

/-- Two routes, given in either order, to a mint on an empty database. -/
theorem mint_ignores_swapped_routes :
    [⟨"GBPC", "", "", ""⟩, ⟨"EURC", "", "", ""⟩].Perm [(⟨"EURC", "", "", ""⟩ : Route), ⟨"GBPC", "", "", ""⟩] ∧
      (atomic {} (mint ⟨⟨[]⟩, "USD", 6, 0⟩ ⟨0, "", true⟩
          ⟨⟨List.replicate 32 1, rfl⟩, ⟨List.replicate 20 2, rfl⟩, 100, [⟨"GBPC", "", "", ""⟩, ⟨"EURC", "", "", ""⟩], "acct"⟩) =
        atomic {} (mint ⟨⟨[]⟩, "USD", 6, 0⟩ ⟨0, "", true⟩
          ⟨⟨List.replicate 32 1, rfl⟩, ⟨List.replicate 20 2, rfl⟩, 100, [⟨"EURC", "", "", ""⟩, ⟨"GBPC", "", "", ""⟩], "acct"⟩) ∨
      ∃ f f', atomic {} (mint ⟨⟨[]⟩, "USD", 6, 0⟩ ⟨0, "", true⟩
          ⟨⟨List.replicate 32 1, rfl⟩, ⟨List.replicate 20 2, rfl⟩, 100, [⟨"GBPC", "", "", ""⟩, ⟨"EURC", "", "", ""⟩], "acct"⟩) =
            .error f ∧
        atomic {} (mint ⟨⟨[]⟩, "USD", 6, 0⟩ ⟨0, "", true⟩
          ⟨⟨List.replicate 32 1, rfl⟩, ⟨List.replicate 20 2, rfl⟩, 100, [⟨"EURC", "", "", ""⟩, ⟨"GBPC", "", "", ""⟩], "acct"⟩) =
            .error f' ∧ f.code = f'.code) :=
  ⟨.swap _ _ _, mint_ignores_route_order ⟨⟨[]⟩, "USD", 6, 0⟩ ⟨0, "", true⟩ {}
    ⟨⟨List.replicate 32 1, rfl⟩, ⟨List.replicate 20 2, rfl⟩, 100, [⟨"EURC", "", "", ""⟩, ⟨"GBPC", "", "", ""⟩], "acct"⟩
    (.swap _ _ _)⟩

end Engine

end Issuance
