import Issuance.Sql.Schema
import Issuance.Sql.Failure
/-! # Named windows

A call names a window whole (`OVER w`) or extends it, taking its partition
and order; it may not add a partition, a second order, or extend a framed
window. A later definition hides an earlier one of its name, case folded.
The default frame ends at the current row's last peer. -/
namespace Issuance.Sql

def defaultFrame : Frame := .mk .range .unboundedPreceding .currentRow .noOthers

def findWindow (defs : List (String × Window)) (name : String) : Except Failure Window :=
  match defs.reverse.find? (sameName ·.1 name) with
  | some (_, w) => .ok w
  | none => .error (.logic ("no such window: " ++ name))

/-- A window made whole from the windows a query defines: a named window is
the one defined, and an extension takes its base's partition and order. -/
def Window.complete (defs : List (String × Window)) : Window → Except Failure Window
  | .named nm => findWindow defs nm
  | .spec none partition orderBy frame => .ok (.spec none partition orderBy frame)
  | .spec (some b) partition orderBy frame => do
    let base ← findWindow defs b
    match base with
    | .spec _ bp bo bf =>
      let refuse := fun (what : String) =>
        Except.error (Failure.logic ("cannot override " ++ what ++ " of window: " ++ b))
      if !partition.isEmpty then refuse "PARTITION clause"
      else if !bo.isEmpty && !orderBy.isEmpty then refuse "ORDER BY clause"
      else if bf.isSome then refuse "frame specification"
      else .ok (.spec none bp (if orderBy.isEmpty then bo else orderBy) frame)
    | .named _ => .ok (.spec none partition orderBy frame)

end Issuance.Sql
