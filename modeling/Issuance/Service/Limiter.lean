import Issuance.Decimal.Binary
/-! # Request budgets

Each caller has a token bucket holding the burst to start; a request takes a
token and tokens flow back at the rate, but no time passes between requests
here. A short bucket still passes when the wait, `missing / rate` seconds in
binary64, is under one nanosecond. -/
namespace Issuance.Service

open Decimal

/-- A limiter: the burst of each caller, the tokens that flow back each
second, and what each caller has taken. -/
structure Limiter where
  burst : Nat
  rate : Binary64
  spent : List (String × Nat) := []
  deriving DecidableEq, Repr

/-- A limiter of a rate per minute and a burst; a burst of zero or less is one. -/
def Limiter.make (perMinute : Binary64) (burst : Int) : Limiter :=
  ⟨if burst ≤ 0 then 1 else burst.toNat, perMinute.div (Binary64.ofInt 60), []⟩

def Limiter.spentBy (l : Limiter) (id : String) : Nat := ((l.spent.find? (·.1 == id)).map (·.2)).getD 0

/-- The whole nanoseconds to wait for `missing` tokens at a rate. -/
def waitNanos (rate : Binary64) (missing : Nat) : Option Int :=
  ((Binary64.ofInt missing).div rate |>.mul (Binary64.ofInt 1000000000)).truncate

def Limiter.allow (l : Limiter) (id : String) : Bool × Limiter :=
  let n := l.spentBy id
  let taken := { l with spent := (id, n + 1) :: l.spent.filter (·.1 != id) }
  if n < l.burst then (true, taken)
  else if waitNanos l.rate (n + 1 - l.burst) = some 0 then (true, taken)
  else (false, l)

def Limiter.admits (l : Limiter) : List String → List Bool
  | [] => []
  | id :: ids =>
    let (ok, l') := l.allow id
    ok :: l'.admits ids

theorem Limiter.allow_spent (l : Limiter) (id : String) (h : l.spentBy id < l.burst) :
    (l.allow id).1 = true := by
  simp [Limiter.allow, h]

end Issuance.Service
