/-! # Stopping short

A computation that cannot give its result either returns an error, which a
caller may act on, or meets a runtime fault (a division by zero, a slice past
its capacity, a wrong dynamic type), which ends the whole request. -/
namespace Issuance

inductive Halt where
  | error (message : String)
  | fault (message : String)
  deriving DecidableEq, Repr

namespace Halt

def message : Halt → String
  | error m => m
  | fault m => m

def divideByZero : Halt := fault "runtime error: integer divide by zero"

def ofError {α : Type} (r : Except String α) : Except Halt α := r.mapError error

end Halt

end Issuance
