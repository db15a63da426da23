import Issuance.Service.AuditLog
/-! # Statements on the audit database

A script runs on a fresh connection until a statement fails, earlier ones
staying; the answer is the last rows-changed count or the failure. A closed
log runs nothing. -/
namespace Issuance.Service

/-- Run a script on the audit log's database at second `now`: the log after
what ran, and the rows changed or the failure. -/
def AuditLog.execute (log : AuditLog) (now : Int) (sql : String) : AuditLog × Except String Nat :=
  if !log.isOpen then (log, .error closedLog) else
  let (db, result) := Sql.runScript log.db (now * 1000) sql
  ({ log with db := db }, match result with
    | .ok n => .ok n.toNat
    | .error f => .error f.message)

theorem AuditLog.execute_closed (log : AuditLog) (now : Int) (sql : String) (h : log.isOpen = false) :
    (log.execute now sql).2 = .error closedLog := by
  simp [AuditLog.execute, h]

end Issuance.Service
