import Issuance.Address
/-! # Events

What the engine announces after a change has been committed. Each event has
a type name and a rendered form: string attributes, numbers in decimal,
addresses in account text (nothing for the zero address), and lists joined
by commas. -/
namespace Issuance

inductive Event
  | mintChannelCreated (channel path : String) (capacity : Nat)
  | mintChannelSet (channel : String) (active : Bool) (assets : List String) (weights : List Nat)
      (feeBps lifetimeCap periodCap minRequest : Nat)
  | burnChannelCreated (channel path : String)
  | burnChannelSet (channel : String) (active : Bool) (outputAsset outputFeed : String)
      (feeBps lifetimeCap periodCap minRequest : Nat)
  | appConfigSet (hours : Nat) (signer : Address) (created : Bool)
  | minted (receipt channel : String) (requester : Address) (recipient : String)
      (amount fee payout : Nat) (legAssets : List String) (legAmounts : List Nat)
  | burned (receipt channel : String) (requester : Address) (outputAsset : String)
      (amount stableCost fee payout : Nat)
  | feeWithdrawn (source destination asset : String) (amount : Nat)
  | custodyReleased (asset : String) (newAuthority : Address)
  | assetCreated (asset : String) (decimals : Nat) (authority : Address)
  | feedCreated (feed description : String) (decimals : Nat)
  | feedRound (feed : String) (round : Nat) (answer updatedAt : Int)
  | accountOpened (account : String) (owner : Address) (asset : String)
  deriving Inhabited

namespace Event

def type : Event → String
  | .mintChannelCreated .. => "factory.mint_channel.created"
  | .mintChannelSet .. => "factory.mint_channel.set"
  | .burnChannelCreated .. => "factory.burn_channel.created"
  | .burnChannelSet .. => "factory.burn_channel.set"
  | .appConfigSet .. => "factory.app_config.set"
  | .minted .. => "factory.minted"
  | .burned .. => "factory.burned"
  | .feeWithdrawn .. => "factory.fee.withdrawn"
  | .custodyReleased .. => "factory.custody.released"
  | .assetCreated .. => "factory.asset.created"
  | .feedCreated .. => "factory.feed.created"
  | .feedRound .. => "factory.feed.round"
  | .accountOpened .. => "factory.account.opened"

def num (n : Nat) : String := toString n

def nums (ns : List Nat) : String := ",".intercalate (ns.map toString)

def flag (b : Bool) : String := if b then "true" else "false"

def attributes : Event → List (String × String)
  | .mintChannelCreated c p cap => [("capacity", num cap), ("channel", c), ("path", Text.trim p)]
  | .mintChannelSet c a as ws f l p m =>
    [("active", flag a), ("assets", ",".intercalate as), ("channel", c), ("feeBps", num f),
      ("lifetimeCap", num l), ("minRequestAmount", num m), ("periodCap", num p), ("weightsBps", nums ws)]
  | .burnChannelCreated c p => [("channel", c), ("path", Text.trim p)]
  | .burnChannelSet c a o feed f l p m =>
    [("active", flag a), ("channel", c), ("feeBps", num f), ("lifetimeCap", num l),
      ("minRequestAmount", num m), ("outputAsset", o)] ++
    (if Text.isBlankText feed then [] else [("outputFeed", Text.trim feed)]) ++ [("periodCap", num p)]
  | .appConfigSet h s c => [("created", flag c), ("custodialSigner", s.shown), ("rollingPeriodHours", num h)]
  | .minted r c q rc a f p la lm =>
    [("amount", num a), ("channel", c), ("fee", num f), ("legAmounts", nums lm),
      ("legAssets", ",".intercalate la), ("payout", num p), ("receipt", r), ("recipient", rc),
      ("requester", q.shown)]
  | .burned r c q o a s f p =>
    [("amount", num a), ("channel", c), ("fee", num f), ("outputAsset", o), ("payout", num p),
      ("receipt", r), ("requester", q.shown), ("stableCost", num s)]
  | .feeWithdrawn s d a n => [("amount", num n), ("asset", a), ("destination", d), ("source", s)]
  | .custodyReleased a n => [("asset", a), ("newAuthority", n.shown)]
  | .assetCreated a d au => [("asset", a), ("authority", au.shown), ("decimals", num d)]
  | .feedCreated f d dec =>
    [("decimals", num dec)] ++ (if d.isEmpty then [] else [("description", d)]) ++ [("feed", f)]
  | .feedRound f r a u => [("answer", toString a), ("feed", f), ("round", num r), ("updatedAt", toString u)]
  | .accountOpened a o s => [("account", a), ("asset", s), ("owner", o.shown)]

end Event

end Issuance
