import Issuance.Json
import Issuance.Text.Blank
/-! # The event hub

Subscribers ask for event types (none: all) and hold at most the buffer of
undelivered events; an event finding it full is missed. Each subscriber has a
channel, which the hub closes when it drops the subscriber: on its first
cancel (`sync.Once`) while it is still registered, or on `close`. Closing a
closed channel, or sending on one, makes Go panic; the hub records either. -/
namespace Issuance.Service

/-- A subscription: the types asked for, the events its channel holds,
whether the channel is closed, whether the hub still holds it, and whether its
cancel has run. -/
structure Subscription where
  types : List String
  held : List Json := []
  closed : Bool := false
  registered : Bool := true
  cancelled : Bool := false
  deriving Inhabited

namespace Subscription

def wants (s : Subscription) (type : String) : Bool := s.types.isEmpty || s.types.contains type

/-- Close the channel; the flag says it was closed already. -/
def shut (s : Subscription) : Subscription × Bool := ({ s with closed := true }, s.closed)

/-- Drop a registered subscriber and close its channel; an unregistered one
is left as it is. -/
def release (s : Subscription) : Subscription × Bool :=
  if s.registered then { s with registered := false }.shut else (s, false)

/-- Send without blocking: missed when the buffer is full. The flag says the
channel was closed. -/
def offer (s : Subscription) (buffer : Nat) (payload : Json) : Subscription × Bool :=
  if s.closed then (s, true)
  else if s.held.length < buffer then ({ s with held := s.held ++ [payload] }, false) else (s, false)

end Subscription

/-- The hub: the buffer of each subscription, every subscription made (by
number), whether the hub is closed, and whether a channel was ever closed
twice or sent on after closing. -/
structure Hub where
  buffer : Nat
  subscriptions : List Subscription := []
  isClosed : Bool := false
  closedTwice : Bool := false
  sentOnClosed : Bool := false
  deriving Inhabited

namespace Hub

def make (buffer : Int) : Hub := { buffer := if buffer ≤ 0 then 64 else buffer.toNat }

def count (h : Hub) : Nat := (h.subscriptions.filter (·.registered)).length

/-- After `close` the channel is closed at once and the cancel handed back
does nothing. -/
def subscribe (h : Hub) (types : List String) : Hub × Nat :=
  let ts := (types.map Text.trim).filter (!·.isEmpty)
  ({ h with subscriptions := h.subscriptions ++ [⟨ts, [], h.isClosed, !h.isClosed, h.isClosed⟩] },
    h.subscriptions.length)

def update (h : Hub) (i : Nat) (f : Subscription → Subscription) : Hub :=
  { h with subscriptions := h.subscriptions.modify i f }

def cancel (h : Hub) (i : Nat) : Hub :=
  match h.subscriptions[i]? with
  | some s =>
    if s.cancelled then h
    else
      let r := { s with cancelled := true }.release
      { h with subscriptions := h.subscriptions.set i r.1, closedTwice := h.closedTwice || r.2 }
  | none => h

def close (h : Hub) : Hub :=
  if h.isClosed then h
  else
    let rs := h.subscriptions.map Subscription.release
    { h with isClosed := true, subscriptions := rs.map (·.1), closedTwice := h.closedTwice || rs.any (·.2) }

/-- Offer an event to every registered subscriber that wants its type. -/
def emit (h : Hub) (type : String) (payload : Json) : Hub :=
  let rs := h.subscriptions.map fun s =>
    if s.registered && s.wants type then s.offer h.buffer payload else (s, false)
  { h with subscriptions := rs.map (·.1), sentOnClosed := h.sentOnClosed || rs.any (·.2) }

def drain (h : Hub) (i : Nat) : (List Json × Bool) × Hub :=
  let s := h.subscriptions.getD i default
  ((s.held, s.closed), h.update i fun s => { s with held := [] })

theorem count_close (h : Hub) (hc : h.isClosed = false) : h.close.count = 0 := by
  simp [close, hc, count, List.filter_map, Function.comp_def, Subscription.release, Subscription.shut]
  intro s _
  split <;> simp_all

end Hub

end Issuance.Service
