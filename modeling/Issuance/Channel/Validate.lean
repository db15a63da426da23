import Issuance.Channel.Window
/-! # Admissible channel settings

A path is non-blank; a fee at most 2000 basis points, decimals at most 19.
A basket fits the capacity and is empty or distinct named legs weighing
10000 basis points; an active channel has a basket or an output asset. Caps
stay above what is counted; routes match the basket by asset. -/
namespace Issuance.Channel

def checkPath (path : String) : Except Fault String :=
  let t := Text.trim path
  if t.isEmpty then .error (Fault.raise .invalidInput "channel path required") else .ok t

def checkFee (fee : Nat) : Except Fault Unit :=
  if fee > maxFeeBps then
    .error (Fault.raise .invalidInput ("fee " ++ toString fee ++ " bps exceeds " ++ toString maxFeeBps))
  else .ok ()

def checkDecimals (d : Nat) : Except Fault Unit :=
  if d > Amount.maxDecimals then
    .error (Fault.raise .invalidInput ("decimals " ++ toString d ++ " exceed " ++ toString Amount.maxDecimals))
  else .ok ()

def checkLegs : Nat → List String → List Leg → Except Fault Unit
  | _, _, [] => .ok ()
  | i, seen, l :: ls =>
    let a := Text.trim l.asset
    if a.isEmpty then .error (Fault.raise .invalidInput ("leg " ++ toString i ++ " missing asset"))
    else if seen.contains a then .error (Fault.raise .invalidInput ("asset " ++ a ++ " appears twice in basket"))
    else match checkDecimals l.decimals with
      | .error f => .error (Fault.within ("leg " ++ toString i) f)
      | .ok () => checkLegs (i + 1) (a :: seen) ls

/-- A basket within `capacity`, empty or with weights summing to 10000. -/
def checkBasket (basket : List Leg) (capacity : Nat) : Except Fault Unit :=
  if basket.length > capacity then
    .error (Fault.raise .invalidInput ("basket of " ++ toString basket.length ++ " legs exceeds capacity " ++
      toString capacity))
  else if basket.isEmpty then .ok ()
  else match checkLegs 0 [] basket with
    | .error f => .error f
    | .ok () =>
      let total := (basket.map (·.weightBps)).foldl (· + ·) 0
      if total ≠ Amount.basisPoints then
        .error (Fault.raise .invalidInput ("basket weights sum to " ++ toString total ++ ", want " ++
          toString Amount.basisPoints))
      else .ok ()

def checkMintSettings (s : MintSettings) (capacity : Nat) : Except Fault Unit := do
  checkFee s.feeBps
  if s.active && s.basket.isEmpty then throw (Fault.raise .invalidInput "active mint channel needs a basket")
  checkBasket s.basket capacity

def checkBurnSettings (s : BurnSettings) : Except Fault Unit := do
  checkFee s.feeBps
  checkDecimals s.outputDecimals
  if s.active && Text.isBlankText s.outputAsset then
    throw (Fault.raise .invalidInput "active burn channel needs an output asset")

def checkCapsAgainst (c : Counters) (l : Limits) (hours : Nat) (now : Int) : Except Fault Unit := do
  if l.lifetimeCap < c.lifetimeIssued then
    throw (Fault.raise .invalidInput ("lifetime cap " ++ toString l.lifetimeCap ++ " below issued " ++
      toString c.lifetimeIssued))
  let w := snapshot c hours now
  if l.periodCap < w.issued then
    throw (Fault.raise .invalidInput ("period cap " ++ toString l.periodCap ++ " below issued " ++
      toString w.issued))

/-- Where one leg of a mint takes its collateral from and to, and the feed
the requester expects it to be priced by. -/
structure Route where
  asset : String
  source : String
  destination : String
  feed : String
  deriving DecidableEq, Repr

/-- The routes put in basket order by trimmed asset; a wrong count, a
repeated asset or a leg without a route is refused. -/
def matchRoutes (basket : List Leg) (routes : List Route) : Except Fault (List Route) := do
  if routes.length ≠ basket.length then
    throw (Fault.raise .invalidInput (toString routes.length ++ " routes for " ++ toString basket.length ++
      " basket legs"))
  let byAsset ← routes.foldlM (fun (acc : List (String × Route)) r =>
    let a := Text.trim r.asset
    if acc.any (·.1 == a) then throw (Fault.raise .invalidInput ("asset " ++ a ++ " routed twice"))
    else pure (acc ++ [(a, r)])) []
  basket.mapM fun l => match byAsset.find? (·.1 == l.asset) with
    | some (_, r) => pure r
    | none => throw (Fault.raise .invalidInput ("no route for basket asset " ++ l.asset))

end Issuance.Channel
