/-! # Failures and their classes

A failure carries a message and one class: the classes are tried in a fixed
order, so a wrapped failure reports the earlier one (`Code.first`). -/
namespace Issuance

/-- The classes of failure, in the order in which a classifier tries them. -/
inductive Code
  | invalidInput
  | invalidAccount
  | unauthorized
  | unavailable
  | limitReached
  | oracleUnavailable
  | oracleMismatch
  | arithmeticOverflow
  | insufficientFunds
  | internal
  deriving DecidableEq, Repr

namespace Code

/-- Position of a class in the classifier's order; `internal` comes last. -/
def rank : Code → Nat
  | invalidInput => 0
  | invalidAccount => 1
  | unauthorized => 2
  | unavailable => 3
  | limitReached => 4
  | oracleUnavailable => 5
  | oracleMismatch => 6
  | arithmeticOverflow => 7
  | insufficientFunds => 8
  | internal => 9

def name : Code → String
  | invalidInput => "invalid_input"
  | invalidAccount => "invalid_account"
  | unauthorized => "unauthorized"
  | unavailable => "unavailable"
  | limitReached => "limit_reached"
  | oracleUnavailable => "oracle_unavailable"
  | oracleMismatch => "oracle_mismatch"
  | arithmeticOverflow => "arithmetic_overflow"
  | insufficientFunds => "insufficient_funds"
  | internal => "internal"

def headline : Code → String
  | invalidInput => "factory: invalid input"
  | invalidAccount => "factory: invalid account"
  | unauthorized => "factory: unauthorized"
  | unavailable => "factory: unavailable"
  | limitReached => "factory: limit reached"
  | oracleUnavailable => "factory: oracle unavailable"
  | oracleMismatch => "factory: oracle mismatch"
  | arithmeticOverflow => "factory: arithmetic overflow"
  | insufficientFunds => "bank: insufficient funds"
  | internal => "internal error"

def first (a b : Code) : Code := if a.rank ≤ b.rank then a else b

theorem rank_injective {a b : Code} (h : a.rank = b.rank) : a = b := by
  cases a <;> cases b <;> simp_all [rank]

theorem rank_first (a b : Code) : (first a b).rank = min a.rank b.rank := by
  unfold first
  split <;> omega

end Code

/-- Failures of the ledgers that a caller tells apart from the rest,
whatever they have been wrapped in. -/
inductive Cause
  | assetExists
  | accountExists
  | feedExists
  deriving DecidableEq, Repr

/-- A failure: its class, its full message, and the ledger failure it
wraps, if it is one a caller tells apart. -/
structure Fault where
  code : Code
  message : String
  cause : Option Cause := none
  deriving DecidableEq, Repr

namespace Fault

def raise (c : Code) (detail : String) : Fault := { code := c, message := c.headline ++ ": " ++ detail }

def plain (message : String) : Fault := { code := .internal, message := message }

def within (context : String) (f : Fault) : Fault := { f with message := context ++ ": " ++ f.message }

/-- A failure wrapped into class `c` as well: it keeps its own class if that
comes first. -/
def under (c : Code) (f : Fault) : Fault :=
  { f with code := c.first f.code, message := c.headline ++ ": " ++ f.message }

@[simp] theorem code_raise (c : Code) (d : String) : (raise c d).code = c := rfl
@[simp] theorem code_within (s : String) (f : Fault) : (within s f).code = f.code := rfl
@[simp] theorem code_under (c : Code) (f : Fault) : (under c f).code = c.first f.code := rfl
@[simp] theorem cause_within (s : String) (f : Fault) : (within s f).cause = f.cause := rfl
@[simp] theorem cause_under (c : Code) (f : Fault) : (under c f).cause = f.cause := rfl

end Fault

end Issuance
