import Issuance.Channel.Id
import Issuance.Address
/-! # Channels and their settings

A mint channel issues the stable unit against a basket of legs; a burn
channel takes it back for one output asset. Both count issuance for all
time and in the rolling period, and the fees kept. -/
namespace Issuance

/-- One collateral leg of a basket: which asset, at how many decimals, what
share of the amount in basis points, and which feed prices it (none: par). -/
structure Leg where
  asset : String
  decimals : Nat
  weightBps : Nat
  priceFeed : String
  deriving DecidableEq, Repr, Inhabited

structure LegacyBasket where
  assets : List String
  decimals : List Nat
  weights : List Nat
  feeds : List String
  deriving DecidableEq, Repr

/-- The legs of parallel arrays, asset and feed trimmed; the arrays must have
one length. -/
def LegacyBasket.legs (b : LegacyBasket) : Except Fault (List Leg) :=
  let n := b.assets.length
  if b.decimals.length = n ∧ b.weights.length = n ∧ b.feeds.length = n then
    .ok ((((b.assets.zip b.decimals).zip b.weights).zip b.feeds).map fun (((a, d), w), f) =>
      ⟨Text.trim a, d, w, Text.trim f⟩)
  else .error (Fault.raise .invalidInput ("basket arrays differ in length (" ++ toString n ++ "/" ++
    toString b.decimals.length ++ "/" ++ toString b.weights.length ++ "/" ++
    toString b.feeds.length ++ ")"))

/-- What a channel has issued and kept. The period anchor is the Unix second
at which the current rolling period began. -/
structure Counters where
  lifetimeIssued : Nat := 0
  lifetimeCap : Nat := 0
  periodIssued : Nat := 0
  periodCap : Nat := 0
  periodAnchor : Int := 0
  accumulatedFee : Nat := 0
  deriving DecidableEq, Repr, Inhabited

structure Limits where
  lifetimeCap : Nat := 0
  periodCap : Nat := 0
  minRequestAmount : Nat := 0
  deriving DecidableEq, Repr, Inhabited

/-- A channel that issues the stable unit against a basket. -/
structure MintChannel where
  id : ChannelId
  path : String
  active : Bool := false
  capacity : Nat := 8
  basket : List Leg := []
  feeBps : Nat := 0
  minRequestAmount : Nat := 0
  counters : Counters := {}
  deriving DecidableEq, Inhabited

/-- A channel that retires the stable unit for an output asset. -/
structure BurnChannel where
  id : ChannelId
  path : String
  active : Bool := false
  outputAsset : String := ""
  outputDecimals : Nat := 0
  outputFeed : String := ""
  feeBps : Nat := 0
  minRequestAmount : Nat := 0
  counters : Counters := {}
  deriving DecidableEq, Inhabited

structure MintSettings where
  active : Bool
  basket : List Leg
  feeBps : Nat
  limits : Limits
  deriving DecidableEq, Repr

structure BurnSettings where
  active : Bool
  outputAsset : String
  outputDecimals : Nat
  outputFeed : String
  feeBps : Nat
  limits : Limits
  deriving DecidableEq, Repr

/-- The engine-wide settings: the rolling period in hours and the custodial
signer, which owns custody accounts and holds the mint authority. -/
structure AppConfig where
  rollingPeriodHours : Nat
  custodialSigner : Address
  deriving DecidableEq

def AppConfig.windowSeconds (c : AppConfig) : Nat := c.rollingPeriodHours * 3600

/-- Legs a new mint channel may hold when none is asked for. -/
def defaultCapacity : Nat := 8

def maxFeeBps : Nat := 2000

def defaultRollingHours : Nat := 24

/-- Decimals of the stable unit when none are asked for. -/
def defaultStableDecimals : Nat := 6

end Issuance
