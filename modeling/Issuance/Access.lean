import Issuance.Address
import Issuance.Fault
/-! # Administrators

The administrators are a set of non-zero addresses. Only they may change the
engine's settings; the zero address never names an administrator. -/
namespace Issuance

/-- The set of administrators, without repeats and without the zero address. -/
structure Admins where
  members : List Address
  deriving DecidableEq

namespace Admins

/-- The administrators among `as`, the zero address left out. -/
def ofList (as : List Address) : Admins := ⟨(as.filter fun a => !a.isZero).eraseDups⟩

def contains (s : Admins) (a : Address) : Bool := s.members.contains a

def size (s : Admins) : Nat := s.members.length

/-- Administrators written as account text; the first one that cannot be read
fails, quoted. -/
def parse (texts : List String) : Except String Admins := do
  let as ← texts.mapM fun t => match Address.parse t with
    | .ok a => .ok a
    | .error e => .error ("admin " ++ Text.quoted t ++ ": " ++ e)
  pure (ofList as)

end Admins

/-- The gate for administrative operations: `none` when no administrator set
was given at all. -/
def authorize (gate : Option Admins) (caller : Address) : Except Fault Unit :=
  match gate with
  | none => .error (Fault.raise .unauthorized "no administrators configured")
  | some s => if s.contains caller then .ok () else .error (Fault.raise .unauthorized caller.toText)

theorem authorize_eq_ok {gate : Option Admins} {caller : Address} :
    authorize gate caller = .ok () ↔ ∃ s, gate = some s ∧ s.contains caller = true := by
  unfold authorize
  cases gate with
  | none => simp
  | some s => by_cases h : s.contains caller <;> simp [h]

theorem contains_ofList {as : List Address} {a : Address} :
    (Admins.ofList as).contains a = true ↔ a ∈ as ∧ a.isZero = false := by
  simp [Admins.ofList, Admins.contains, List.mem_eraseDups]

end Issuance
