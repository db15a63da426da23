import Issuance.Text.Utf8
import Issuance.Store.Tx
import Issuance.Amount
import Issuance.Text.Blank
/-! # Price feeds

Each accepted round has the next number, a signed answer and a Unix second
no earlier than the last. Decimals are fixed at creation; an answer is kept
as magnitude and sign, so every 64-bit answer reads back. -/
namespace Issuance

structure Round where
  id : Nat
  answer : Int
  decimals : Nat
  updatedAt : Int
  deriving DecidableEq, Repr

structure PriceFeed where
  id : String
  description : String
  decimals : Nat
  latest : Option Round
  deriving DecidableEq, Repr

namespace Feed

inductive Error
  | emptyId
  | notFound (id : String)
  | idRequired
  | decimalsTooLarge (d : Nat)
  | exists (id : String)
  | noRound (id : String)
  | stale (id : String)
  | timestampRequired
  | store (f : Fault)
  deriving DecidableEq

def Error.message : Error → String
  | .emptyId => "feeds: feed not found: empty id"
  | .notFound id => "feeds: feed not found: " ++ id
  | .idRequired => "feeds: invalid feed definition: id required"
  | .decimalsTooLarge d => "feeds: invalid feed definition: decimals " ++ toString d ++ " exceed 19"
  | .exists id => "feeds: feed already exists: " ++ id
  | .noRound id => "feeds: no round submitted: " ++ id
  | .stale id => "feeds: round older than latest: " ++ id
  | .timestampRequired => "feeds: invalid feed definition: round timestamp required"
  | .store f => f.message

/-- Whether a failure is a bad request to the registry: a missing feed, a
stale round or an invalid definition. -/
def Error.isRequestError : Error → Bool
  | .emptyId | .notFound _ | .idRequired | .decimalsTooLarge _ | .stale _ | .timestampRequired => true
  | _ => false

/-- A feed failure as a failure of the library, outside every class; an
existing feed stays recognisable. -/
def Error.toFault : Error → Fault
  | .store f => f
  | e@(.exists _) => { Fault.plain e.message with cause := some .feedExists }
  | e => Fault.plain e.message

abbrev Step := Store.TxnOf Error

def io (m : Store.Txn α) : Step α := Store.Txn.mapFault Error.store m

def fail (e : Error) : Step α := fun _ => .error e

structure Stored where
  id : String
  description : String
  decimals : Nat
  roundId : Nat := 0
  magnitude : Nat := 0
  negative : Bool := false
  updatedAt : Nat := 0
  deriving DecidableEq, Inhabited

def shape : Store.Rlp.Shape :=
  .record "feeds.storedFeed" [("ID", .text "string"), ("Description", .text "string"),
    ("Decimals", .uint 8), ("RoundID", .uint 64), ("Magnitude", .uint 64), ("Negative", .bool),
    ("UpdatedAt", .uint 64)]

def Stored.toValue (s : Stored) : Store.Rlp.Value :=
  .items [.bytes (Bytes.ofString s.id), .bytes (Bytes.ofString s.description), .num s.decimals,
    .num s.roundId, .num s.magnitude, .flag s.negative, .num s.updatedAt]

def storedOfValue : Store.Rlp.Value → Stored
  | .items [.bytes i, .bytes d, .num dec, .num r, .num m, .flag n, .num u] =>
    ⟨Bytes.toTextLossy i, Bytes.toTextLossy d, dec, r, m, n, u⟩
  | _ => default

def signed (n : Nat) : Int := if n < Nat.pow 2 63 then n else (n : Int) - Int.pow 2 64

def wrap (i : Int) : Int := signed (Int.toNat (i % Int.pow 2 64))

/-- The feed of what is stored; no round until one is accepted. -/
def Stored.toFeed (s : Stored) : PriceFeed :=
  ⟨s.id, s.description, s.decimals,
    if s.roundId = 0 then none
    else some ⟨s.roundId, (if s.negative then wrap (-(signed s.magnitude)) else signed s.magnitude),
      s.decimals, signed s.updatedAt⟩⟩

def feedPrefix : Bytes := Bytes.ofString "feeds/"

def key (id : String) : Bytes := feedPrefix ++ Bytes.ofString id

def load (id : String) : Step Stored := do
  let id := Text.trim id
  if id.isEmpty then fail .emptyId
  match ← io (Store.Txn.read shape (key id)) with
  | some v => pure (storedOfValue v)
  | none => fail (.notFound id)

/-- Create a feed with no round; the id and description are trimmed. -/
def create (id description : String) (decimals : Nat) : Step PriceFeed := do
  let id := Text.trim id
  if id.isEmpty then fail .idRequired
  if decimals > Amount.maxDecimals then fail (.decimalsTooLarge decimals)
  if ← io (Store.Txn.has (key id)) then fail (.exists id)
  let s : Stored := { id := id, description := Text.trim description, decimals := decimals }
  io (Store.Txn.write (key id) s.toValue)
  pure s.toFeed

def submit (id : String) (answer : Int) (time : Int) : Step Round := do
  let s ← load id
  if time < 0 then fail .timestampRequired
  let ts := time.toNat
  if s.roundId > 0 && ts < s.updatedAt then fail (.stale s.id)
  let mag := if answer < 0 then (-answer).toNat else answer.toNat
  let s : Stored := ⟨s.id, s.description, s.decimals, s.roundId + 1, mag, decide (answer < 0), ts⟩
  io (Store.Txn.write (key s.id) s.toValue)
  match s.toFeed.latest with
  | some r => pure r
  | none => pure ⟨s.roundId, answer, s.decimals, time⟩

def latest (id : String) : Step Round := do
  let s ← load id
  match s.toFeed.latest with
  | some r => pure r
  | none => fail (.noRound s.id)

def get (id : String) : Step PriceFeed := do pure (← load id).toFeed

def list : Step (List PriceFeed) := do
  let keys ← io (Store.Txn.keys feedPrefix)
  let found ← keys.mapM fun k => io (Store.Txn.read shape k)
  pure ((found.filterMap id).map fun v => (storedOfValue v).toFeed)

end Feed

end Issuance
