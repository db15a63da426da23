import Mathlib.Data.List.Basic
import Mathlib.Data.List.Induction
import Issuance.Service.Hub
/-! # Delivery by the event hub

Calls made to a hub from its start, and what each subscription is owed: every
event emitted while it was registered, of a type it asks for, that found room
in its buffer. No channel is ever closed twice or sent on once closed
(`Sound`); a subscription's channel is closed exactly when it is no longer
registered, and what it has received followed by what it holds is what it is
owed, in order of emission (`Tracks`). -/
namespace Issuance.Service

namespace Hub

/-- A call made to a hub. -/
inductive Call where
  | subscribe (types : List String)
  | cancel (i : Nat)
  | close
  | emit (type : String) (payload : Json)
  | receive (i : Nat)

namespace Call

def isClose : Call → Bool
  | .close => true
  | _ => false

def cancels (i : Nat) : Call → Bool
  | .cancel j => j == i
  | _ => false

def isSubscribe : Call → Bool
  | .subscribe _ => true
  | _ => false

/-- One call on a hub, and the payloads receiving took out, by subscription. -/
def step (s : Hub × List (Nat × Json)) : Call → Hub × List (Nat × Json)
  | .subscribe ts => ((s.1.subscribe ts).1, s.2)
  | .cancel i => (s.1.cancel i, s.2)
  | .close => (s.1.close, s.2)
  | .emit t p => (s.1.emit t p, s.2)
  | .receive i => ((s.1.drain i).2, s.2 ++ (s.1.drain i).1.1.map fun p => (i, p))

end Call

open Call

/-- The hub after some calls, with everything received. -/
def calls (h : Hub) (cs : List Call) : Hub × List (Nat × Json) := cs.foldl Call.step (h, [])

def sub (h : Hub) (i : Nat) : Subscription := h.subscriptions.getD i default

def received (log : List (Nat × Json)) (i : Nat) : List Json :=
  log.filterMap fun e => if e.1 = i then some e.2 else none

def subscribes (cs : List Call) : Nat := (cs.filter isSubscribe).length

theorem subscribes_cons (c : Call) (cs : List Call) :
    subscribes (c :: cs) = subscribes cs + if c.isSubscribe then 1 else 0 := by
  by_cases hc : c.isSubscribe <;> simp [subscribes, hc]

theorem subscribes_concat (cs : List Call) (c : Call) :
    subscribes (cs ++ [c]) = subscribes cs + if c.isSubscribe then 1 else 0 := by
  by_cases hc : c.isSubscribe <;> simp [subscribes, List.filter_append, hc]

theorem subscribes_take_le (k : Nat) (cs : List Call) : subscribes (cs.take k) ≤ subscribes cs :=
  ((List.take_sublist k cs).filter isSubscribe).length_le

/-- The types subscription `i` asked for, and the calls after it was made. -/
def birth (i : Nat) : List Call → Option (List String × List Call)
  | [] => none
  | .subscribe ts :: cs => if i = 0 then some (ts, cs) else birth (i - 1) cs
  | _ :: cs => birth i cs

/-- Subscription `i` was made and neither the hub nor it was closed since. -/
def registered (cs : List Call) (i : Nat) : Bool :=
  match birth i cs with
  | some b => !cs.any isClose && !b.2.any (cancels i)
  | none => false

/-- Whether a subscription asking for some types takes an event of a type:
the trimmed, non-empty types, and every type when there are none. -/
def asks (types : List String) (type : String) : Bool :=
  let ts := (types.map Text.trim).filter (!·.isEmpty)
  ts.isEmpty || ts.contains type

/-- What subscription `i` is owed from a call made after the calls `pre`. -/
def owedBy (h : Hub) (i : Nat) (pre : List Call) : Call → Option Json
  | .emit t p =>
    match birth i pre with
    | some b =>
      if registered pre i && asks b.1 t && ((calls h pre).1.sub i).held.length < h.buffer then some p else none
    | none => none
  | _ => none

def owed (h : Hub) (cs : List Call) (i : Nat) : List Json :=
  (List.range cs.length).filterMap fun k => cs[k]?.bind (owedBy h i (cs.take k))

/-! ## One call -/

theorem calls_append (h : Hub) (cs : List Call) (c : Call) : calls h (cs ++ [c]) = Call.step (calls h cs) c := by
  simp [calls, List.foldl_append]

theorem buffer_step (s : Hub × List (Nat × Json)) (c : Call) : (Call.step s c).1.buffer = s.1.buffer := by
  cases c with
  | cancel i =>
    simp only [step, cancel]
    split
    · split <;> rfl
    · rfl
  | close => simp only [step, close]; split <;> rfl
  | _ => rfl

theorem length_step (s : Hub × List (Nat × Json)) (c : Call) :
    (Call.step s c).1.subscriptions.length = s.1.subscriptions.length + if c.isSubscribe then 1 else 0 := by
  cases c with
  | cancel i =>
    simp only [step, cancel, isSubscribe]
    split
    · split <;> simp
    · rfl
  | close => simp only [step, close, isSubscribe]; split <;> simp
  | _ => simp [step, isSubscribe, subscribe, emit, drain, update]

theorem isClosed_step (s : Hub × List (Nat × Json)) (c : Call) :
    (Call.step s c).1.isClosed = (s.1.isClosed || c.isClose) := by
  cases c with
  | cancel i =>
    simp only [step, cancel, isClose, Bool.or_false]
    split
    · split <;> rfl
    · rfl
  | close => simp only [step, close, isClose]; split <;> simp_all
  | _ => simp [step, isClose, subscribe, emit, drain, update]

section
variable {h : Hub} {i : Nat}

theorem sub_subscribe_of_lt (ts : List String) (hi : i < h.subscriptions.length) :
    (h.subscribe ts).1.sub i = h.sub i := by
  simp [sub, subscribe, List.getD_eq_getElem?_getD, List.getElem?_append_left hi]

theorem sub_subscribe_self (ts : List String) :
    (h.subscribe ts).1.sub h.subscriptions.length =
      ⟨(ts.map Text.trim).filter (!·.isEmpty), [], h.isClosed, !h.isClosed, h.isClosed⟩ := by
  simp [sub, subscribe, List.getD_eq_getElem?_getD]

theorem sub_update (f : Subscription → Subscription) (j : Nat) (hi : i < h.subscriptions.length) :
    (h.update j f).sub i = if j = i then f (h.sub i) else h.sub i := by
  simp only [sub, update, List.getD_eq_getElem?_getD, List.getElem?_modify, List.getElem?_eq_getElem hi]
  split <;> rfl

/-- A cancel runs once: its first call releases the subscription. -/
theorem sub_cancel (j : Nat) (hi : i < h.subscriptions.length) :
    (h.cancel j).sub i =
      if j = i ∧ (h.sub i).cancelled = false then { h.sub i with cancelled := true }.release.1 else h.sub i := by
  have hsub : h.sub i = h.subscriptions[i] := by simp [sub, List.getD_eq_getElem?_getD, hi]
  unfold cancel
  split
  · rename_i s hj
    split
    · have : ¬(j = i ∧ (h.sub i).cancelled = false) := by
        rintro ⟨rfl, hc⟩
        simp_all
      rw [if_neg this]
    · by_cases hji : j = i
      · subst hji
        simp_all [sub, List.getD_eq_getElem?_getD]
      · simp [sub, List.getD_eq_getElem?_getD, hji]
  · rename_i hj
    have : j ≠ i := by rintro rfl; simp [List.getElem?_eq_getElem hi] at hj
    simp [this]

theorem sub_close (hi : i < h.subscriptions.length) :
    h.close.sub i = if h.isClosed then h.sub i else (h.sub i).release.1 := by
  unfold close
  split <;> simp [sub, List.getD_eq_getElem?_getD, List.getElem?_eq_getElem hi]

theorem sub_emit (t : String) (p : Json) (hi : i < h.subscriptions.length) :
    (h.emit t p).sub i = if (h.sub i).registered && (h.sub i).wants t
      then ((h.sub i).offer h.buffer p).1 else h.sub i := by
  simp only [sub, emit, List.getD_eq_getElem?_getD, List.map_map, List.getElem?_map, List.getElem?_eq_getElem hi,
    Option.map_some, Option.getD_some, Function.comp_apply]
  split <;> rfl

end

/-! ## No channel is closed twice or sent on once closed -/

end Hub

namespace Subscription

/-- A subscription whose channel is closed exactly when it is dropped, and
which is dropped once its cancel has run and once the hub is closed. -/
structure Sound (hubClosed : Bool) (s : Subscription) : Prop where
  closed : s.closed = !s.registered
  cancelled : s.cancelled = true → s.registered = false
  hub : hubClosed = true → s.registered = false

variable {s : Subscription}

theorem release_snd (hs : s.closed = !s.registered) : s.release.2 = false := by
  unfold release shut
  split <;> simp_all

theorem release_fst (hs : s.closed = !s.registered) :
    s.release.1 = { s with registered := false, closed := true } := by
  unfold release shut
  split
  · rfl
  · cases s; simp_all

theorem sound_release (hs : s.closed = !s.registered) (c : Bool) : s.release.1.Sound c := by
  rw [release_fst hs]
  exact ⟨rfl, fun _ => rfl, fun _ => rfl⟩

/-- An offer to an open channel holds the payload where there is room. -/
theorem offer_of_open (hc : s.closed = false) (b : Nat) (p : Json) :
    s.offer b p = (if s.held.length < b then { s with held := s.held ++ [p] } else s, false) := by
  unfold offer
  rw [if_neg (by simp [hc])]
  split <;> rfl

/-- A registered subscription that wants an event's type is offered it on an
open channel. -/
theorem offer_of_wants (hs : s.closed = !s.registered) {t : String} (hw : (s.registered && s.wants t) = true)
    (b : Nat) (p : Json) :
    s.offer b p = (if s.held.length < b then { s with held := s.held ++ [p] } else s, false) :=
  offer_of_open (by simp_all) b p

end Subscription

namespace Hub

open Call Subscription

/-- What every hub reached from a fresh one satisfies. -/
structure Sound (h : Hub) : Prop where
  closedTwice : h.closedTwice = false
  sentOnClosed : h.sentOnClosed = false
  subs : ∀ i < h.subscriptions.length, (h.sub i).Sound h.isClosed

theorem sound_make (b : Int) : (make b).Sound := ⟨rfl, rfl, fun i hi => by simp [make] at hi⟩

section
variable {h : Hub}

theorem sub_mem {s : Subscription} (hs : s ∈ h.subscriptions) : ∃ i < h.subscriptions.length, h.sub i = s := by
  obtain ⟨i, hi, rfl⟩ := List.mem_iff_getElem.mp hs
  exact ⟨i, hi, by simp [sub, List.getD_eq_getElem?_getD, hi]⟩

theorem Sound.subscribe (hS : h.Sound) (ts : List String) : (h.subscribe ts).1.Sound := by
  refine ⟨hS.closedTwice, hS.sentOnClosed, fun i hi => ?_⟩
  simp only [Hub.subscribe, List.length_append, List.length_singleton] at hi
  rcases Nat.lt_or_ge i h.subscriptions.length with hlt | hge
  · rw [sub_subscribe_of_lt ts hlt]
    exact hS.subs i hlt
  · obtain rfl : i = h.subscriptions.length := by omega
    rw [sub_subscribe_self]
    refine ⟨by simp, fun hc => by simpa using hc, fun hc => ?_⟩
    change h.isClosed = true at hc
    simp [hc]

theorem Sound.cancel (hS : h.Sound) (j : Nat) : (h.cancel j).Sound := by
  have hlen : (h.cancel j).subscriptions.length = h.subscriptions.length := by
    simpa [step, isSubscribe] using length_step (h, []) (.cancel j)
  have hflags : (h.cancel j).closedTwice = false ∧ (h.cancel j).sentOnClosed = false ∧
      (h.cancel j).isClosed = h.isClosed := by
    unfold Hub.cancel
    split
    · rename_i s hj
      split
      · exact ⟨hS.closedTwice, hS.sentOnClosed, rfl⟩
      · obtain ⟨hjl, rfl⟩ := List.getElem?_eq_some_iff.mp hj
        have hs := (hS.subs j hjl).closed
        simp only [sub, List.getD_eq_getElem?_getD, List.getElem?_eq_getElem hjl, Option.getD_some] at hs
        have hr : ({ h.subscriptions[j] with cancelled := true } : Subscription).release.2 = false := release_snd hs
        exact ⟨by simp [hS.closedTwice, hr], hS.sentOnClosed, rfl⟩
    · exact ⟨hS.closedTwice, hS.sentOnClosed, rfl⟩
  refine ⟨hflags.1, hflags.2.1, fun i hi => ?_⟩
  rw [hlen] at hi
  rw [sub_cancel j hi, hflags.2.2]
  have hs := hS.subs i hi
  split
  · exact sound_release (s := { h.sub i with cancelled := true }) hs.closed _
  · exact hs

theorem Sound.close (hS : h.Sound) : h.close.Sound := by
  by_cases hc : h.isClosed = true
  · simpa [Hub.close, hc] using hS
  · have hrel : ∀ s ∈ h.subscriptions, s.release.2 = false := by
      intro s hs
      obtain ⟨i, hi, rfl⟩ := sub_mem hs
      exact release_snd (hS.subs i hi).closed
    have hlen : h.close.subscriptions.length = h.subscriptions.length := by simp [Hub.close, hc]
    refine ⟨by simpa [Hub.close, hc, hS.closedTwice] using hrel, by simp [Hub.close, hc, hS.sentOnClosed],
      fun i hi => ?_⟩
    rw [hlen] at hi
    rw [sub_close hi, if_neg hc]
    exact sound_release (hS.subs i hi).closed _

theorem Sound.emit (hS : h.Sound) (t : String) (p : Json) : (h.emit t p).Sound := by
  have hoff : ∀ s ∈ h.subscriptions, (if s.registered && s.wants t then s.offer h.buffer p else (s, false)).2 = false := by
    intro s hs
    obtain ⟨i, hi, rfl⟩ := sub_mem hs
    split
    · rw [offer_of_wants (hS.subs i hi).closed ‹_›]
    · rfl
  refine ⟨hS.closedTwice, by simpa [Hub.emit, hS.sentOnClosed, List.any_eq_false] using hoff, fun i hi => ?_⟩
  simp only [Hub.emit, List.map_map, List.length_map] at hi
  have hs := hS.subs i hi
  rw [sub_emit t p hi]
  split
  · rw [offer_of_wants hs.closed ‹_›]
    split
    · exact ⟨hs.closed, hs.cancelled, hs.hub⟩
    · exact hs
  · exact hs

theorem Sound.drain (hS : h.Sound) (j : Nat) : (h.drain j).2.Sound := by
  refine ⟨hS.closedTwice, hS.sentOnClosed, fun i hi => ?_⟩
  simp only [Hub.drain, update, List.length_modify] at hi
  have hs := hS.subs i hi
  rw [show (h.drain j).2 = h.update j _ from rfl, sub_update _ j hi]
  split
  · exact ⟨hs.closed, hs.cancelled, hs.hub⟩
  · exact hs

theorem Sound.step (hS : h.Sound) (log : List (Nat × Json)) (c : Call) : (Call.step (h, log) c).1.Sound := by
  cases c with
  | subscribe ts => exact hS.subscribe ts
  | cancel j => exact hS.cancel j
  | close => exact hS.close
  | emit t p => exact hS.emit t p
  | receive j => exact hS.drain j

theorem sound_calls (hS : h.Sound) (cs : List Call) : (calls h cs).1.Sound := by
  induction cs using List.reverseRecOn with
  | nil => exact hS
  | append_singleton cs c ih =>
    rw [calls_append]
    exact ih.step _ c

end

/-- A call keeps a subscription's types, and leaves it registered exactly
when it was and the call is neither a close nor a cancel of it. -/
theorem types_registered_step {s : Hub × List (Nat × Json)} {i : Nat} (hS : s.1.Sound)
    (hl : i < s.1.subscriptions.length) (c : Call) :
    ((Call.step s c).1.sub i).types = (s.1.sub i).types ∧
      ((Call.step s c).1.sub i).registered = ((s.1.sub i).registered && !c.isClose && !c.cancels i) := by
  have hs := hS.subs i hl
  cases c with
  | subscribe ts => simp [Call.step, sub_subscribe_of_lt ts hl, isClose, cancels]
  | cancel j =>
    simp only [Call.step, sub_cancel j hl, isClose, cancels]
    by_cases hj : j = i
    · subst hj
      by_cases hc : (s.1.sub j).cancelled = true
      · simp [hc, hs.cancelled hc]
      · simp [hc, release_fst (s := { s.1.sub j with cancelled := true }) hs.closed]
    · simp [hj]
  | close =>
    simp only [Call.step, sub_close hl, isClose]
    split
    · simp [hs.hub ‹_›]
    · simp [release_fst hs.closed]
  | emit t p =>
    simp only [Call.step, sub_emit t p hl, isClose, cancels]
    split
    · rw [offer_of_wants hs.closed ‹_›]
      split <;> simp
    · simp
  | receive j => by_cases hj : j = i <;> simp [Call.step, drain, sub_update _ _ hl, hj, isClose, cancels]

/-! ## The calls before a subscription is made -/

theorem birth_append_of_lt {i : Nat} {cs : List Call} (c : Call) (hi : i < subscribes cs) :
    birth i (cs ++ [c]) = (birth i cs).map fun b => (b.1, b.2 ++ [c]) := by
  induction cs generalizing i with
  | nil => simp [subscribes] at hi
  | cons d cs ih =>
    cases d with
    | subscribe ts =>
      rcases i with _ | i
      · simp [birth]
      · simp [birth, ih (i := i) (by simpa [subscribes_cons, isSubscribe] using hi)]
    | _ => simpa [birth] using ih (by simpa [subscribes_cons, isSubscribe] using hi)

theorem birth_append_self (cs : List Call) (ts : List String) :
    birth (subscribes cs) (cs ++ [.subscribe ts]) = some (ts, []) := by
  induction cs with
  | nil => rfl
  | cons d cs ih => cases d <;> simp [birth, subscribes_cons, isSubscribe, ih]

theorem birth_isSome {i : Nat} {cs : List Call} (hi : i < subscribes cs) : (birth i cs).isSome := by
  induction cs generalizing i with
  | nil => simp [subscribes] at hi
  | cons d cs ih =>
    cases d with
    | subscribe ts =>
      rcases i with _ | i
      · rfl
      · exact ih (by simpa [subscribes_cons, isSubscribe] using hi)
    | _ => exact ih (by simpa [subscribes_cons, isSubscribe] using hi)

theorem birth_of_le {i : Nat} {cs : List Call} (hi : subscribes cs ≤ i) : birth i cs = none := by
  induction cs generalizing i with
  | nil => rfl
  | cons d cs ih =>
    cases d with
    | subscribe ts =>
      rw [subscribes_cons] at hi
      simp only [isSubscribe, if_true] at hi
      rw [birth, if_neg (by omega)]
      exact ih (by omega)
    | _ => exact ih (by simpa [subscribes_cons, isSubscribe] using hi)

theorem registered_append {i : Nat} {cs : List Call} (c : Call) (hi : i < subscribes cs) :
    registered (cs ++ [c]) i = (registered cs i && !c.isClose && !c.cancels i) := by
  obtain ⟨b, hb⟩ := Option.isSome_iff_exists.mp (birth_isSome hi)
  simp only [registered, birth_append_of_lt c hi, hb, Option.map_some, List.any_append, List.any_cons,
    List.any_nil, Bool.or_false, Bool.not_or]
  ac_rfl

theorem registered_append_self (cs : List Call) (ts : List String) :
    registered (cs ++ [.subscribe ts]) (subscribes cs) = !cs.any isClose := by
  simp [registered, birth_append_self, isClose]

theorem owed_append (h : Hub) (cs : List Call) (c : Call) (i : Nat) :
    owed h (cs ++ [c]) i = owed h cs i ++ (owedBy h i cs c).toList := by
  have hk : ∀ k ∈ List.range cs.length, (cs ++ [c])[k]?.bind (owedBy h i ((cs ++ [c]).take k)) =
      cs[k]?.bind (owedBy h i (cs.take k)) := by
    intro k hk
    have hk := List.mem_range.mp hk
    rw [List.getElem?_append_left hk, List.take_append_of_le_length (Nat.le_of_lt hk)]
  rw [owed, List.length_append, List.length_singleton, List.range_succ, List.filterMap_append,
    List.filterMap_congr hk]
  simp only [owed, List.filterMap_cons, List.filterMap_nil, List.getElem?_concat_length, Option.bind_some,
    List.take_left]
  cases owedBy h i cs c <;> rfl

theorem owed_of_le (h : Hub) {i : Nat} {cs : List Call} (hi : subscribes cs ≤ i) : owed h cs i = [] := by
  rw [owed, List.filterMap_eq_nil_iff]
  intro k _
  cases hk : cs[k]? with
  | none => rfl
  | some c =>
    have hb := birth_of_le (Nat.le_trans (subscribes_take_le k cs) hi)
    cases c <;> simp [owedBy, hb]

/-! ## A subscription's record -/

/-- What the record of subscription `i` in the state `s` says after the calls `cs`. -/
structure Tracks (h : Hub) (cs : List Call) (i : Nat) (s : Hub × List (Nat × Json)) : Prop where
  types : ∀ b, birth i cs = some b → (s.1.sub i).types = (b.1.map Text.trim).filter (!·.isEmpty)
  registration : (s.1.sub i).registered = registered cs i
  delivered : received s.2 i ++ (s.1.sub i).held = owed h cs i
  room : (s.1.sub i).held.length ≤ h.buffer

section
variable {h : Hub} (hs : h.subscriptions = []) (hc : h.isClosed = false) (hS : h.Sound)

include hs in
theorem length_calls (cs : List Call) : (calls h cs).1.subscriptions.length = subscribes cs := by
  induction cs using List.reverseRecOn with
  | nil => simp [calls, hs, subscribes]
  | append_singleton cs c ih =>
    rw [calls_append, length_step, ih, subscribes_concat]

include hc in
theorem isClosed_calls (cs : List Call) : (calls h cs).1.isClosed = cs.any isClose := by
  induction cs using List.reverseRecOn with
  | nil => simp [calls, hc]
  | append_singleton cs c ih => rw [calls_append, isClosed_step, ih, List.any_append]; simp

theorem buffer_calls (cs : List Call) : (calls h cs).1.buffer = h.buffer := by
  induction cs using List.reverseRecOn with
  | nil => rfl
  | append_singleton cs c ih => rw [calls_append, buffer_step, ih]

theorem received_append (log more : List (Nat × Json)) (i : Nat) :
    received (log ++ more) i = received log i ++ received more i := List.filterMap_append

theorem received_map (ps : List Json) (i j : Nat) :
    received (ps.map fun p => (j, p)) i = if j = i then ps else [] := by
  induction ps with
  | nil => simp [received]
  | cons p ps ih => by_cases hj : j = i <;> simp_all [received]

include hs hS in
theorem Tracks.step {cs : List Call} {i : Nat} (c : Call) (hi : i < subscribes cs)
    (hT : Tracks h cs i (calls h cs)) : Tracks h (cs ++ [c]) i (Call.step (calls h cs) c) := by
  obtain ⟨b, hb⟩ := Option.isSome_iff_exists.mp (birth_isSome hi)
  have hl : i < (calls h cs).1.subscriptions.length := by rw [length_calls hs]; exact hi
  have hsound := sound_calls hS cs
  have hsub := hsound.subs i hl
  have hbuf := buffer_calls (h := h) cs
  have hb' : birth i (cs ++ [c]) = some (b.1, b.2 ++ [c]) := by rw [birth_append_of_lt c hi, hb]; rfl
  have hown := owed_append h cs c i
  obtain ⟨htypes, hreg, hdel, hroom⟩ := hT
  have hty := htypes b hb
  obtain ⟨hkeep, hreg'⟩ := types_registered_step hsound hl c
  -- the types and the registration follow every call alike
  have htypes' : ∀ b', birth i (cs ++ [c]) = some b' →
      ((Call.step (calls h cs) c).1.sub i).types = (b'.1.map Text.trim).filter (!·.isEmpty) := by
    intro b' h'
    rw [hb'] at h'
    cases h'
    rw [hkeep, hty]
  have hreg'' : ((Call.step (calls h cs) c).1.sub i).registered = registered (cs ++ [c]) i := by
    rw [hreg', hreg, registered_append c hi]
  -- a call that leaves what the subscription holds and has received, and owes it nothing
  have hkeep : ((Call.step (calls h cs) c).1.sub i).held = ((calls h cs).1.sub i).held →
      received (Call.step (calls h cs) c).2 i = received (calls h cs).2 i → owedBy h i cs c = none →
      Tracks h (cs ++ [c]) i (Call.step (calls h cs) c) := fun hh hr ho =>
    ⟨htypes', hreg'', by rw [hh, hr, hown, ho, ← hdel, Option.toList_none, List.append_nil], by rw [hh]; exact hroom⟩
  -- releasing keeps what the channel holds
  have hrel : ∀ s : Subscription, s.closed = !s.registered → s.release.1.held = s.held := fun s hs' => by
    rw [release_fst hs']
  cases c with
  | subscribe ts => exact hkeep (by simp only [Call.step, sub_subscribe_of_lt ts hl]) rfl rfl
  | cancel j =>
    refine hkeep ?_ rfl rfl
    change ((calls h cs).1.cancel j |>.sub i).held = _
    rw [sub_cancel j hl]
    split
    · exact hrel { (calls h cs).1.sub i with cancelled := true } hsub.closed
    · rfl
  | close =>
    refine hkeep ?_ rfl rfl
    change ((calls h cs).1.close.sub i).held = _
    rw [sub_close hl]
    split
    · rfl
    · exact hrel _ hsub.closed
  | emit t p =>
    have hwants : ((calls h cs).1.sub i).wants t = asks b.1 t := by rw [Subscription.wants, hty]; rfl
    -- a registered channel is open, so the event is held where there is room
    have hsubE : ((calls h cs).1.emit t p).sub i = if registered cs i && asks b.1 t &&
        decide (((calls h cs).1.sub i).held.length < h.buffer)
        then { (calls h cs).1.sub i with held := ((calls h cs).1.sub i).held ++ [p] }
        else (calls h cs).1.sub i := by
      rw [sub_emit t p hl, hreg, hwants, hbuf]
      by_cases hgo : (registered cs i && asks b.1 t) = true
      · have hopen : ((calls h cs).1.sub i).closed = false := by
          rw [hsub.closed, hreg]
          simp_all
        rw [if_pos hgo, offer_of_open hopen]
        by_cases hlt : ((calls h cs).1.sub i).held.length < h.buffer
        · rw [if_pos hlt, if_pos (by simp_all)]
        · rw [if_neg hlt, if_neg (by simp_all)]
      · simp only [Bool.not_eq_true] at hgo
        simp [hgo]
    have hby : owedBy h i cs (.emit t p) = if registered cs i && asks b.1 t &&
        decide (((calls h cs).1.sub i).held.length < h.buffer) then some p else none := by
      simp only [owedBy, hb]
    -- the event is either held or missed, and the subscription is owed it exactly when held
    by_cases hgo : (registered cs i && asks b.1 t && decide (((calls h cs).1.sub i).held.length < h.buffer)) = true
    · rw [if_pos hgo] at hsubE hby
      have hlt : ((calls h cs).1.sub i).held.length < h.buffer := by
        simp only [Bool.and_eq_true, decide_eq_true_eq] at hgo
        exact hgo.2
      refine ⟨htypes', hreg'', ?_, ?_⟩ <;> simp only [Call.step, hsubE, hown, hby]
      · rw [← hdel, Option.toList_some, List.append_assoc]
      · rw [List.length_append, List.length_singleton]
        omega
    · rw [if_neg hgo] at hsubE hby
      exact hkeep (by simp only [Call.step, hsubE]) rfl hby
  | receive j =>
    have hrec : received (Call.step (calls h cs) (.receive j)).2 i =
        received (calls h cs).2 i ++ if j = i then ((calls h cs).1.sub i).held else [] := by
      simp only [Call.step, drain, received_append, received_map]
      by_cases hj : j = i
      · subst hj
        rfl
      · simp [hj]
    have hheld : ((Call.step (calls h cs) (.receive j)).1.sub i).held =
        if j = i then [] else ((calls h cs).1.sub i).held := by
      change (((calls h cs).1.update j fun s => { s with held := [] }).sub i).held = _
      rw [sub_update _ j hl]
      split <;> rfl
    -- what is taken out moves from the held payloads to the received ones
    by_cases hj : j = i
    · rw [if_pos hj] at hrec hheld
      refine ⟨htypes', hreg'', ?_, ?_⟩ <;> simp only [hrec, hheld, hown, owedBy]
      · simpa using hdel
      · simp
    · rw [if_neg hj] at hrec hheld
      exact hkeep hheld (by simpa using hrec) rfl

include hs in
theorem received_calls_of_le {i : Nat} {cs : List Call} (hi : subscribes cs ≤ i) : received (calls h cs).2 i = [] := by
  induction cs using List.reverseRecOn with
  | nil => rfl
  | append_singleton cs c ih =>
    have hi' : subscribes cs ≤ i := by rw [subscribes_concat] at hi; omega
    rw [calls_append]
    cases c with
    | receive j =>
      simp only [Call.step, drain, received_append, ih hi', received_map, List.nil_append]
      split
      · rw [List.getD_eq_getElem?_getD, List.getElem?_eq_none (by rw [length_calls hs]; omega)]
        rfl
      · rfl
    | _ => exact ih hi'

include hs hc in
theorem Tracks.new (cs : List Call) (ts : List String) :
    Tracks h (cs ++ [.subscribe ts]) (subscribes cs) (Call.step (calls h cs) (.subscribe ts)) := by
  have hsub := sub_subscribe_self (h := (calls h cs).1) ts
  rw [length_calls hs, isClosed_calls hc] at hsub
  refine ⟨fun b h' => ?_, ?_, ?_, ?_⟩ <;> simp only [Call.step, hsub]
  · rw [birth_append_self] at h'
    cases h'
    rfl
  · rw [registered_append_self]
  · rw [received_calls_of_le hs (Nat.le_refl _), owed_append, owed_of_le h (Nat.le_refl _)]
    rfl
  · exact Nat.zero_le _

include hs hc hS in
theorem tracks_calls {i : Nat} {cs : List Call} (hi : i < subscribes cs) : Tracks h cs i (calls h cs) := by
  induction cs using List.reverseRecOn with
  | nil => simp [subscribes] at hi
  | append_singleton cs c ih =>
    rw [calls_append]
    rcases Nat.lt_or_ge i (subscribes cs) with hlt | hge
    · exact (ih hlt).step hs hS c hlt
    · rw [subscribes_concat] at hi
      cases c with
      | subscribe ts =>
        obtain rfl : i = subscribes cs := by simp only [isSubscribe, if_true] at hi; omega
        exact Tracks.new hs hc cs ts
      | _ => simp [isSubscribe] at hi; omega

end

/-- From a fresh hub no channel is ever closed twice or sent on once closed;
each subscription's channel is closed exactly when it is no longer
registered, and what it received followed by what it holds is what it is
owed. -/
theorem delivered_while_registered (b : Int) (cs : List Call) :
    (calls (make b) cs).1.closedTwice = false ∧ (calls (make b) cs).1.sentOnClosed = false ∧
    ∀ i, i < subscribes cs →
      ((calls (make b) cs).1.sub i).closed = !registered cs i ∧
      received (calls (make b) cs).2 i ++ ((calls (make b) cs).1.sub i).held = owed (make b) cs i ∧
      ((calls (make b) cs).1.sub i).held.length ≤ (make b).buffer := by
  have hS := sound_calls (sound_make b) cs
  refine ⟨hS.closedTwice, hS.sentOnClosed, fun i hi => ?_⟩
  have hT := tracks_calls (h := make b) rfl rfl (sound_make b) hi
  have hl : i < (calls (make b) cs).1.subscriptions.length := by rw [length_calls rfl]; exact hi
  exact ⟨by rw [(hS.subs i hl).closed, hT.registration], hT.delivered, hT.room⟩

/-- On a hub of buffer one, subscriber 0 takes the first `minted` event and
misses the second; it is cancelled twice and the hub closed twice; a later
subscriber is closed at once, and an emit after the close reaches no one. -/
theorem delivered_around_close :
    let cs : List Call := [.subscribe [], .subscribe ["burned"], .emit "minted" (.str "a"),
      .emit "minted" (.str "b"), .receive 0, .cancel 0, .cancel 0, .close, .close, .subscribe [], .cancel 2,
      .emit "burned" (.str "c"), .receive 1]
    (calls (make 1) cs).1.closedTwice = false ∧ (calls (make 1) cs).1.sentOnClosed = false ∧
      0 < subscribes cs ∧ ((calls (make 1) cs).1.sub 0).closed = !registered cs 0 ∧
      received (calls (make 1) cs).2 0 ++ ((calls (make 1) cs).1.sub 0).held = owed (make 1) cs 0 ∧
      ((calls (make 1) cs).1.sub 0).held.length ≤ (make 1).buffer ∧
      (received (calls (make 1) cs).2 0).length = 1 := by
  intro cs
  obtain ⟨h₁, h₂, h₃⟩ := delivered_while_registered 1 cs
  obtain ⟨h₄, h₅, h₆⟩ := h₃ 0 (by decide)
  exact ⟨h₁, h₂, by decide, h₄, h₅, h₆, by decide⟩

end Hub

end Issuance.Service
