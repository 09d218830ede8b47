import AccessControl.Call

/-! # Keeping the audit log -/

namespace AccessControl.Audit

open Service

/-- Enter a record into the log. Where that fails there is no entry, and nothing else happens. -/
def record (now : Instant) (r : AuditRecord) : Service (Option AuditEntry) := do
  let id ← ask (.newId .auditEntry)
  let entry : AuditEntry := { r with id, createdAt := now }
  match ← (ask (.appendEntry entry)).attempt with
  | .ok _ => return some entry
  | .error _ => return none

def list (q : AuditQuery) : Service (List AuditEntry) := ask (.listEntries q)

/-- A span that is closed on both sides holds some time. -/
def checkWindow (w : AuditWindow) : Outcome Unit :=
  match w.start, w.stop with
  | some start, some stop => if stop ≤ start then .error .auditWindow else .ok ()
  | _, _ => .ok ()

def summary (organization : Option OrganizationId) (window : AuditWindow) :
    Service AuditSummary := do
  .ofOutcome (checkWindow window)
  ask (.summarize organization window)

def maxRetention : Nat := 3650

def checkRetention (days : Nat) : Outcome Unit :=
  if 1 ≤ days ∧ days ≤ maxRetention then .ok () else .error (.auditRetention maxRetention)

/-- Drop the entries older than a number of days, and tell how many there were. -/
def purge (organization : OrganizationId) (days : Nat) : Service Nat := do
  .ofOutcome (checkRetention days)
  ask (.purgeEntries organization days)

end AccessControl.Audit
