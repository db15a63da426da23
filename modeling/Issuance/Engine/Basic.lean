import Issuance.Bank
import Issuance.Pricing
import Issuance.Event
import Issuance.Access
import Issuance.Channel.Ledger
import Issuance.Channel.Validate
/-! # The issuance engine

Issues a stable unit against baskets of collateral and retires it for output
assets. It holds its administrators, the stable unit and the oracle's
staleness limit; all else is in the store. Each operation is one
transaction, committed whole or not at all. -/
namespace Issuance

structure Engine where
  admins : Admins
  stableAsset : String
  stableDecimals : Nat
  oracleMaxAge : Nat := 0

/-- What an operation sees besides the store: the clock, whether a feed
registry exists, and a fresh identifier. -/
structure Context where
  now : Int
  fresh : String := ""
  reader : Bool := true

namespace Engine

/-- A checked engine: state manager and access list given, stable asset
trimmed and nonblank, decimals defaulted and at most nineteen. -/
def make (hasManager hasAccess : Bool) (admins : Admins) (stableAsset : String) (decimals maxAge : Nat) :
    Except Fault Engine := do
  if !hasManager then throw (Fault.plain "factory: state manager required")
  if !hasAccess then throw (Fault.plain "factory: access control required")
  let asset := Text.trim stableAsset
  if asset.isEmpty then throw (Fault.plain "factory: stable asset required")
  let d := if decimals = 0 then defaultStableDecimals else decimals
  Channel.checkDecimals d
  pure ⟨admins, asset, d, maxAge⟩

def oracle (e : Engine) (ctx : Context) : Oracle := ⟨ctx.reader, e.oracleMaxAge, ctx.now⟩

def authorize (e : Engine) (caller : Address) : Except Fault Unit := Issuance.authorize (some e.admins) caller

end Engine

/-- A bank failure as reported for accounts: shortfalls keep their class,
account faults are invalid accounts, overflow is overflow. -/
def accountFault : Bank.Error → Fault
  | e@(.insufficientFunds ..) => e.toFault
  | e@(.accountNotFound _) | e@(.notAccountOwner _) | e@(.notMintAuthority _) | e@(.assetMismatch ..) =>
    Fault.under .invalidAccount e.toFault
  | e@(.accountOverflow _) | e@(.supplyOverflow _) => Fault.under .arithmeticOverflow e.toFault
  | e => e.toFault

def bankStep (g : Bank.Error → Fault) (m : Bank.Step α) : Store.Txn α := Store.Txn.mapFault g m

def requireAccount (role id asset : String) (owner : Option Address) : Store.Txn Account := do
  if Text.isBlankText id then Store.Txn.fail (Fault.raise .invalidAccount (role ++ " account required"))
  let a ← bankStep (fun e => Fault.within (role ++ " account") (accountFault e)) (Bank.account id)
  if a.asset != asset then
    Store.Txn.fail (Fault.raise .invalidAccount (role ++ " account " ++ a.id ++ " holds " ++ a.asset ++ ", want " ++
      asset))
  match owner with
  | some o =>
    if a.owner != o then
      Store.Txn.fail (Fault.raise .invalidAccount (role ++ " account " ++ a.id ++ " has unexpected owner"))
    else pure a
  | none => pure a

def requireAppConfig : Store.Txn AppConfig := do
  match ← Channel.appConfig with
  | some c => pure c
  | none => Store.Txn.fail (Fault.raise .unavailable "app config not created")

/-- Run an operation in one transaction: on success its result, its events
and the committed database; on failure the database is left as it was. -/
def runAtomic (db : Store.Database) (op : Store.Txn (α × List Event)) :
    Except Fault (α × List Event × Store.Database) := do
  let ((a, evs), db') ← Store.atomic db op
  pure (a, evs, db')

def runView (db : Store.Database) (op : Store.Txn α) : Except Fault α := Store.view db op

end Issuance
