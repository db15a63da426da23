import Issuance.Text.Utf8
import Issuance.Store.Tx
import Issuance.Address
import Issuance.Amount
/-! # The token bank

An asset has decimals, a mint authority and a supply; an account an owner,
one asset and a balance. Moving and burning need the source's owner,
minting the mint authority; every operation writes only once its checks
pass. -/
namespace Issuance

structure Asset where
  id : String
  decimals : Nat
  mintAuthority : Address
  supply : Nat := 0
  deriving DecidableEq, Inhabited

structure Account where
  id : String
  owner : Address
  asset : String
  balance : Nat := 0
  deriving DecidableEq, Inhabited

namespace Bank

inductive Error
  | assetIdRequired
  | assetNotFound (id : String)
  | assetExists (id : String)
  | accountNotFound (detail : String)
  | accountExists (id : String)
  | assetMismatch (source target : String)
  | notAccountOwner (id : String)
  | notMintAuthority (asset : String)
  | insufficientFunds (id : String) (held need : Nat)
  | accountOverflow (id : String)
  | supplyOverflow (asset : String)
  | store (f : Fault)
  deriving DecidableEq

def Error.message : Error → String
  | .assetIdRequired => "bank: asset id required"
  | .assetNotFound id => "bank: asset not found: " ++ id
  | .assetExists id => "bank: asset already exists: " ++ id
  | .accountNotFound d => "bank: account not found: " ++ d
  | .accountExists id => "bank: account already exists: " ++ id
  | .assetMismatch a b => "bank: asset mismatch: " ++ a ++ " -> " ++ b
  | .notAccountOwner id => "bank: authority mismatch: account " ++ id
  | .notMintAuthority a => "bank: authority mismatch: asset " ++ a
  | .insufficientFunds id h n =>
    "bank: insufficient funds: account " ++ id ++ " holds " ++ toString h ++ ", need " ++ toString n
  | .accountOverflow id => "bank: balance overflow: account " ++ id
  | .supplyOverflow a => "bank: balance overflow: asset " ++ a
  | .store f => f.message

/-- A bank failure as a failure of the library: only a shortfall has a
class, and an existing asset or account stays recognisable. -/
def Error.toFault : Error → Fault
  | .store f => f
  | e@(.insufficientFunds _ _ _) => { code := .insufficientFunds, message := e.message }
  | e@(.assetExists _) => { Fault.plain e.message with cause := some .assetExists }
  | e@(.accountExists _) => { Fault.plain e.message with cause := some .accountExists }
  | e => Fault.plain e.message

abbrev Step := Store.TxnOf Error

def io (m : Store.Txn α) : Step α := Store.Txn.mapFault Error.store m

def fail (e : Error) : Step α := fun _ => .error e

def assetShape : Store.Rlp.Shape :=
  .record "bank.Asset" [("ID", .text "string"), ("Decimals", .uint 16),
    ("MintAuthority", .fixed 20 "[20]uint8"), ("Supply", .uint 64)]

def accountShape : Store.Rlp.Shape :=
  .record "bank.Account" [("ID", .text "string"), ("Owner", .fixed 20 "[20]uint8"),
    ("Asset", .text "string"), ("Balance", .uint 64)]

def addressOf (b : Bytes) : Address := (Address.ofBytes? b).getD Address.zero

def assetValue (a : Asset) : Store.Rlp.Value :=
  .items [.bytes (Bytes.ofString a.id), .num a.decimals, .bytes a.mintAuthority.bytes, .num a.supply]

def assetOfValue : Store.Rlp.Value → Asset
  | .items [.bytes i, .num d, .bytes m, .num s] => ⟨Bytes.toTextLossy i, d, addressOf m, s⟩
  | _ => default

def accountValue (a : Account) : Store.Rlp.Value :=
  .items [.bytes (Bytes.ofString a.id), .bytes a.owner.bytes, .bytes (Bytes.ofString a.asset), .num a.balance]

def accountOfValue : Store.Rlp.Value → Account
  | .items [.bytes i, .bytes o, .bytes a, .num b] => ⟨Bytes.toTextLossy i, addressOf o, Bytes.toTextLossy a, b⟩
  | _ => default

def assetPrefix : Bytes := Bytes.ofString "bank/asset/"

def accountPrefix : Bytes := Bytes.ofString "bank/account/"

def assetKey (id : String) : Bytes := assetPrefix ++ Bytes.ofString id

def accountKey (id : String) : Bytes := accountPrefix ++ Bytes.ofString id

def putAsset (a : Asset) : Step Unit := io (Store.Txn.write (assetKey a.id) (assetValue a))

def putAccount (a : Account) : Step Unit := io (Store.Txn.write (accountKey a.id) (accountValue a))

/-- Create an asset with no supply; the id is trimmed and must be new. -/
def createAsset (id : String) (decimals : Nat) (authority : Address) : Step Asset := do
  let id := Text.trim id
  if id.isEmpty then fail .assetIdRequired
  if ← io (Store.Txn.has (assetKey id)) then fail (.assetExists id)
  let a : Asset := ⟨id, decimals, authority, 0⟩
  putAsset a
  pure a

def asset (id : String) : Step Asset := do
  let id := Text.trim id
  match ← io (Store.Txn.read assetShape (assetKey id)) with
  | some v => pure (assetOfValue v)
  | none => fail (.assetNotFound id)

/-- Open an empty account of an existing asset; a blank id is replaced by `fresh`. -/
def openAccount (id : String) (owner : Address) (assetId : String) (fresh : String) : Step Account := do
  let _ ← asset assetId
  let id := Text.trim id
  let id := if id.isEmpty then fresh else id
  if ← io (Store.Txn.has (accountKey id)) then fail (.accountExists id)
  let a : Account := ⟨id, owner, Text.trim assetId, 0⟩
  putAccount a
  pure a

def account (id : String) : Step Account := do
  let id := Text.trim id
  if id.isEmpty then fail (.accountNotFound "empty id")
  match ← io (Store.Txn.read accountShape (accountKey id)) with
  | some v => pure (accountOfValue v)
  | none => fail (.accountNotFound id)

def accountsByOwner (owner : Address) : Step (List Account) := do
  let keys ← io (Store.Txn.keys accountPrefix)
  let found ← keys.mapM fun k => io (Store.Txn.read accountShape k)
  pure ((found.filterMap id).map accountOfValue |>.filter (·.owner == owner))

/-- Move `amount` between two accounts of one asset, on the source owner's
authority. Moving to the same account, or nothing, writes nothing. -/
def transfer (authority : Address) (source target : String) (amount : Nat) : Step Unit := do
  let src ← account source
  let dst ← account target
  if src.owner != authority then fail (.notAccountOwner src.id)
  if src.asset != dst.asset then fail (.assetMismatch src.asset dst.asset)
  if src.balance < amount then fail (.insufficientFunds src.id src.balance amount)
  if src.id = dst.id || amount = 0 then pure ()
  else
    if dst.balance + amount ≥ Amount.bound then fail (.accountOverflow dst.id)
    putAccount { src with balance := src.balance - amount }
    putAccount { dst with balance := dst.balance + amount }

def mintTo (authority : Address) (target : String) (amount : Nat) : Step Unit := do
  let dst ← account target
  let a ← asset dst.asset
  if a.mintAuthority != authority then fail (.notMintAuthority a.id)
  if a.supply + amount ≥ Amount.bound || dst.balance + amount ≥ Amount.bound then
    fail (.supplyOverflow a.id)
  putAsset { a with supply := a.supply + amount }
  putAccount { dst with balance := dst.balance + amount }

/-- Retire `amount` tokens from an account, on its owner's authority; the
supply does not go below zero. -/
def burn (authority : Address) (source : String) (amount : Nat) : Step Unit := do
  let src ← account source
  if src.owner != authority then fail (.notAccountOwner src.id)
  if src.balance < amount then fail (.insufficientFunds src.id src.balance amount)
  let a ← asset src.asset
  putAsset { a with supply := a.supply - amount }
  putAccount { src with balance := src.balance - amount }

def setMintAuthority (current : Address) (assetId : String) (next : Address) : Step Unit := do
  let a ← asset assetId
  if a.mintAuthority != current then fail (.notMintAuthority a.id)
  putAsset { a with mintAuthority := next }

end Bank

end Issuance
